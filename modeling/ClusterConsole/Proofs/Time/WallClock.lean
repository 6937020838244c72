import ClusterConsole.Proofs.Number.Decimal
import ClusterConsole.Proofs.Text.Utf8
import ClusterConsole.Proofs.Time.Calendar
import ClusterConsole.Proofs.Time.Instant

/-! # Clocks and the moments they name

A clock that shows date and time to the millisecond, together with its offset from UTC, names one moment, and its text
is read as that moment. Each count of milliseconds is named on every clock of the years 0 to 9999, and once. -/

namespace ClusterConsole
open Ascii

/-- Date and time as a clock shows them, in the years 0 to 9999. -/
structure WallClock where
  date : Date
  hour : Nat
  minute : Nat
  second : Nat
  milli : Nat
  date_exists : date.Exists
  year_nonneg : 0 ≤ date.year
  year_le : date.year ≤ 9999
  hour_lt : hour < 24
  minute_lt : minute < 60
  second_lt : second < 60
  milli_lt : milli < 1000

namespace WallClock

/-- The text `YYYY-MM-DDTHH:MM:SS.mmm`. -/
def text (w : WallClock) : List Char :=
  Decimal.padded 4 w.date.year.toNat ++ '-' :: Decimal.padded 2 w.date.month.toNat ++
    '-' :: Decimal.padded 2 w.date.day.toNat ++ 'T' :: Decimal.padded 2 w.hour ++ ':' :: Decimal.padded 2 w.minute ++
    ':' :: Decimal.padded 2 w.second ++ '.' :: Decimal.padded 3 w.milli

/-- The milliseconds on the clock since it showed the beginning of 1970. -/
def millis (w : WallClock) : Int :=
  w.date.toDays * 86400000 + (w.hour * 3600000 + w.minute * 60000 + w.second * 1000 + w.milli)

theorem date_lt (w : WallClock) :
    w.date.year.toNat < 10000 ∧ w.date.month.toNat < 100 ∧ w.date.day.toNat < 100 := by
  have hlast := w.year_le
  have hlength := Date.monthLength_le w.date.year w.date.month
  obtain ⟨-, hmonth, -, hday⟩ := w.date_exists
  omega

theorem date_toNat (w : WallClock) : Date.mk w.date.year.toNat w.date.month.toNat w.date.day.toNat = w.date := by
  obtain ⟨hmonth, -, hday, -⟩ := w.date_exists
  rw [Int.toNat_of_nonneg w.year_nonneg, Int.toNat_of_nonneg (by omega), Int.toNat_of_nonneg (by omega)]

end WallClock

/-- Hours and minutes: `HH:MM`. -/
def hoursText (minutes : Nat) : List Char :=
  Decimal.padded 2 (minutes / 60) ++ ':' :: Decimal.padded 2 (minutes % 60)

/-- How an offset from UTC of some minutes, less than a day, is written. -/
inductive OffsetText : Int → List Char → Prop
  | utc : OffsetText 0 ['Z']
  | ahead {minutes : Nat} (h : minutes < 1440) : OffsetText minutes ('+' :: hoursText minutes)
  | behind {minutes : Nat} (h : minutes < 1440) : OffsetText (-minutes) ('-' :: hoursText minutes)

namespace Rfc3339

/-! ### Reading digits -/

theorem digits_encode {ds : List Char} (hds : ∀ c ∈ ds, c.isDigit) (sofar : Nat) (rest : Input) :
    digits ds.length sofar (Utf8.encode ds ++ rest) = .ok (Nat.ofDigitChars 10 ds sofar, rest) := by
  induction ds generalizing sofar with
  | nil => rfl
  | cons c ds ih =>
    obtain ⟨hc, hrest⟩ := List.forall_mem_cons.mp hds
    rw [Utf8.encode_cons_of_isDigit hc, List.cons_append, List.length_cons, digits, digit?_byte hc]
    dsimp only
    rw [ih hrest, Nat.ofDigitChars_cons]

theorem digits_padded {width n : Nat} (hwidth : 0 < width) (h : n < Nat.pow 10 width) (rest : Input) :
    digits width 0 (Utf8.encode (Decimal.padded width n) ++ rest) = .ok (n, rest) := by
  have hread := digits_encode (Decimal.isDigit_padded width n) 0 rest
  rwa [Decimal.length_padded hwidth h, Decimal.ofDigitChars_padded] at hread

theorem twoDigits_padded {n : Nat} (h : n < 100) (rest : Input) :
    digits 2 0 (Utf8.encode (Decimal.padded 2 n) ++ rest) = .ok (n, rest) :=
  digits_padded (by decide) h rest

theorem expect_byte (c : Char) (rest : Input) : expect c (byte c :: rest) = .ok rest := by
  rw [expect, if_pos rfl]

theorem fractionDigits_encode {ds : List Char} (hds : ∀ c ∈ ds, c.isDigit) {value places : Nat}
    (hlength : ds.length ≤ places) {rest : Input} (hrest : ∀ b ∈ rest.head?, digit? b = none) :
    fractionDigits value places (Utf8.encode ds ++ rest) =
      (value + Nat.ofDigitChars 10 ds 0 * Nat.pow 10 (places - ds.length), rest) := by
  induction ds generalizing value places with
  | nil =>
    rw [Nat.ofDigitChars_nil, Nat.zero_mul, Nat.add_zero]
    cases rest with
    | nil =>
      show fractionDigits value places [] = _
      rw [fractionDigits]
    | cons b rest =>
      show fractionDigits value places (b :: rest) = _
      unfold fractionDigits
      rw [hrest b rfl]
  | cons c ds ih =>
    obtain ⟨hc, hmore⟩ := List.forall_mem_cons.mp hds
    obtain ⟨places, rfl⟩ : ∃ p, places = p + 1 := ⟨places - 1, by rw [List.length_cons] at hlength; omega⟩
    rw [List.length_cons] at hlength
    rw [Utf8.encode_cons_of_isDigit hc, List.cons_append]
    unfold fractionDigits
    rw [digit?_byte hc]
    dsimp only
    have hpow : Nat.pow 10 ds.length * Nat.pow 10 (places - ds.length) = Nat.pow 10 places := by
      rw [Nat.pow_eq, Nat.pow_eq, Nat.pow_eq, ← Nat.pow_add, Nat.add_sub_cancel' (by omega)]
    have hvalue : Nat.ofDigitChars 10 ds (c.toNat - '0'.toNat) =
        Nat.pow 10 ds.length * (c.toNat - '0'.toNat) + Nat.ofDigitChars 10 ds 0 := Nat.ofDigitChars_eq_ofDigitChars_zero
    rw [ih hmore (by omega), Nat.ofDigitChars_cons, Nat.mul_zero, Nat.zero_add, List.length_cons,
      Nat.add_sub_add_right, hvalue, Nat.add_mul, Nat.mul_right_comm, hpow, Nat.mul_comm (Nat.pow 10 places),
      Nat.add_assoc]

theorem offsetDigits_padded {n : Nat} (h : n < 100) (rest : Input) :
    offsetDigits (Utf8.encode (Decimal.padded 2 n) ++ rest) = .ok (n, rest) := by
  have hlength : (Decimal.padded 2 n).length = 2 := Decimal.length_padded (by decide) h
  have hdigits := Decimal.isDigit_padded 2 n
  have hvalue : Nat.ofDigitChars 10 (Decimal.padded 2 n) 0 = n := Decimal.ofDigitChars_padded
  match hpadded : Decimal.padded 2 n, hlength with
  | [a, b], _ =>
    rw [hpadded] at hdigits hvalue
    have ha := hdigits a (by simp)
    have hb := hdigits b (by simp)
    rw [Utf8.encode_cons_of_isDigit ha, Utf8.encode_cons_of_isDigit hb]
    show offsetDigits (byte a :: byte b :: rest) = _
    rw [offsetDigits, digit?_byte ha, digit?_byte hb]
    rw [Nat.ofDigitChars_cons, Nat.ofDigitChars_cons, Nat.ofDigitChars_nil] at hvalue
    dsimp only
    rw [Nat.mul_zero, Nat.zero_add] at hvalue
    rw [hvalue]

theorem fraction_padded {n : Nat} (h : n < 1000) {rest : Input} (hrest : ∀ b ∈ rest.head?, digit? b = none) :
    fraction (byte '.' :: (Utf8.encode (Decimal.padded 3 n) ++ rest)) = .ok (n * 1000000, rest) := by
  have hlength : (Decimal.padded 3 n).length = 3 := Decimal.length_padded (by decide) h
  have hdigits := Decimal.isDigit_padded 3 n
  have hread : fractionDigits 0 9 (Utf8.encode (Decimal.padded 3 n) ++ rest) = (n * 1000000, rest) := by
    have hplaces : Nat.pow 10 (9 - 3) = 1000000 := rfl
    rw [fractionDigits_encode hdigits (by omega) hrest, Decimal.ofDigitChars_padded, hlength, Nat.zero_add, hplaces]
  match hpadded : Decimal.padded 3 n, hlength with
  | c :: more, _ =>
    rw [hpadded] at hread hdigits
    have hc := hdigits c List.mem_cons_self
    rw [Utf8.encode_cons_of_isDigit hc, List.cons_append] at hread ⊢
    rw [fraction, if_pos rfl, digit?_byte hc, if_pos Option.isSome_some, hread]

theorem signedOffset_text {minutes : Nat} (h : minutes < 1440) (sign : Char) {value : Int} (hascii : sign.toNat < 0x80)
    (hsign : ∀ rest, offsetSign (byte sign :: rest) = .ok (value, rest)) :
    offset.signedOffset (Utf8.encode (sign :: hoursText minutes)) = .ok (value * (minutes * 60), []) := by
  rw [Utf8.encode_cons_of_ascii hascii, hoursText, Utf8.encode_append, Utf8.encode_cons_of_ascii (by decide),
    offset.signedOffset, hsign, ok_bind]
  dsimp only
  rw [offsetDigits_padded (by omega), ok_bind]
  dsimp only
  rw [expect_byte, ok_bind, ← List.append_nil (Utf8.encode (Decimal.padded 2 (minutes % 60))),
    offsetDigits_padded (by omega), ok_bind]
  dsimp only
  rw [if_neg (by omega)]
  congr 3
  omega

theorem offset_text {minutes : Int} {zone : List Char} (h : OffsetText minutes zone) :
    offset (Utf8.encode zone) = .ok (minutes * 60, []) := by
  cases h with
  | utc => rfl
  | @ahead minutes h =>
    have hsigned := signedOffset_text h '+' (by decide) fun rest => rfl
    rw [Int.one_mul] at hsigned
    exact hsigned
  | @behind minutes h =>
    have hsigned := signedOffset_text h '-' (by decide) fun rest => rfl
    rw [← Int.neg_mul_eq_neg_mul, Int.one_mul, Int.neg_mul_eq_neg_mul] at hsigned
    exact hsigned

theorem date_text (w : WallClock) (rest : Input) :
    date (Utf8.encode (Decimal.padded 4 w.date.year.toNat) ++ byte '-' ::
      (Utf8.encode (Decimal.padded 2 w.date.month.toNat) ++ byte '-' ::
        (Utf8.encode (Decimal.padded 2 w.date.day.toNat) ++ rest))) = .ok (w.date, rest) := by
  obtain ⟨hyear, hmonth, hday⟩ := w.date_lt
  rw [date, digits_padded (by decide) hyear, ok_bind]
  dsimp only
  rw [expect_byte, ok_bind, twoDigits_padded hmonth, ok_bind]
  dsimp only
  rw [expect_byte, ok_bind, twoDigits_padded hday, ok_bind]
  dsimp only
  rw [w.date_toNat, if_pos w.date_exists]

theorem timeOfDay_text (w : WallClock) {rest : Input} (hrest : ∀ b ∈ rest.head?, digit? b = none) :
    timeOfDay (Utf8.encode (Decimal.padded 2 w.hour) ++ byte ':' :: (Utf8.encode (Decimal.padded 2 w.minute) ++
      byte ':' :: (Utf8.encode (Decimal.padded 2 w.second) ++ byte '.' ::
        (Utf8.encode (Decimal.padded 3 w.milli) ++ rest)))) =
      .ok (w.hour * 3600 + w.minute * 60 + w.second, w.milli * 1000000, rest) := by
  have hhour := w.hour_lt
  have hminute := w.minute_lt
  have hsecond := w.second_lt
  rw [timeOfDay, twoDigits_padded (by omega), ok_bind]
  dsimp only
  rw [expect_byte, ok_bind, twoDigits_padded (by omega), ok_bind]
  dsimp only
  rw [expect_byte, ok_bind, twoDigits_padded (by omega), ok_bind]
  dsimp only
  rw [fraction_padded w.milli_lt hrest, ok_bind]
  dsimp only
  rw [if_neg (by omega), if_neg (by omega)]

theorem length_encode_digits {ds : List Char} (hds : ∀ c ∈ ds, c.isDigit) : (Utf8.encode ds).length = ds.length := by
  induction ds with
  | nil => rfl
  | cons c ds ih =>
    obtain ⟨hc, hmore⟩ := List.forall_mem_cons.mp hds
    rw [Utf8.encode_cons_of_isDigit hc, List.length_cons, List.length_cons, ih hmore]

theorem length_encode_padded {width n : Nat} (hwidth : 0 < width) (h : n < Nat.pow 10 width) :
    (Utf8.encode (Decimal.padded width n)).length = width := by
  rw [length_encode_digits (Decimal.isDigit_padded width n), Decimal.length_padded hwidth h]

theorem digit?_head_zone {minutes : Int} {zone : List Char} (h : OffsetText minutes zone) :
    ∀ b ∈ (Utf8.encode zone).head?, digit? b = none := by
  cases h with
  | utc =>
    rw [Utf8.encode_cons_of_ascii (by decide)]
    rintro b ⟨⟩
    decide
  | ahead =>
    rw [Utf8.encode_cons_of_ascii (by decide)]
    rintro b ⟨⟩
    decide
  | behind =>
    rw [Utf8.encode_cons_of_ascii (by decide)]
    rintro b ⟨⟩
    decide

/-- The text of a clock and its offset is read as the moment that they name. -/
theorem parse_text (w : WallClock) {minutes : Int} {zone : List Char} (h : OffsetText minutes zone) :
    parse (String.ofList (w.text ++ zone)) = .ok
      ⟨(w.millis - minutes * 60000) / 1000, ((w.millis - minutes * 60000) % 1000).toNat * 1000000⟩ := by
  have hbytes : Utf8.encode (w.text ++ zone) =
      Utf8.encode (Decimal.padded 4 w.date.year.toNat) ++ byte '-' ::
        (Utf8.encode (Decimal.padded 2 w.date.month.toNat) ++ byte '-' ::
          (Utf8.encode (Decimal.padded 2 w.date.day.toNat) ++ byte 'T' ::
            (Utf8.encode (Decimal.padded 2 w.hour) ++ byte ':' :: (Utf8.encode (Decimal.padded 2 w.minute) ++
              byte ':' :: (Utf8.encode (Decimal.padded 2 w.second) ++ byte '.' ::
                (Utf8.encode (Decimal.padded 3 w.milli) ++ Utf8.encode zone)))))) := by
    simp (disch := decide) only [WallClock.text, List.append_assoc, List.cons_append, Utf8.encode_append,
      Utf8.encode_cons_of_ascii]
  have hlength : leastLength ≤ (Utf8.encode (w.text ++ zone)).length := by
    obtain ⟨hyear, hmonth, hday⟩ := w.date_lt
    have hhour := w.hour_lt
    have hminute := w.minute_lt
    have hsecond := w.second_lt
    have htwo : ∀ {n : Nat}, n < 100 → (Utf8.encode (Decimal.padded 2 n)).length = 2 := fun h =>
      length_encode_padded Nat.zero_lt_two h
    rw [hbytes]
    simp only [List.length_append, List.length_cons, length_encode_padded (show 0 < 4 by decide) hyear, htwo hmonth,
      htwo hday, htwo (show w.hour < 100 by omega), htwo (show w.minute < 100 by omega),
      htwo (show w.second < 100 by omega)]
    unfold leastLength
    omega
  have hbound : minutes.natAbs < 1440 := by cases h <;> omega
  have hmilli := w.milli_lt
  -- The parts are read one after another, each with all the others behind it.
  rw [parse]
  dsimp only
  rw [Utf8.ofString, String.toList_ofList, if_neg (Nat.not_lt_of_le hlength), hbytes, date_text, ok_bind]
  dsimp only
  rw [separator, if_pos (.inl rfl), ok_bind, timeOfDay_text w (digit?_head_zone h), ok_bind]
  dsimp only
  rw [offset_text h, ok_bind]
  dsimp only
  rw [if_neg (not_not_intro rfl), if_neg (by omega)]
  show Except.ok _ = _
  rw [Except.ok.injEq, Instant.mk.injEq]
  unfold WallClock.millis
  omega

end Rfc3339

namespace WallClock

/-- What a clock shows when it has gone so many milliseconds since the beginning of 1970. -/
def ofMillis (millis : Int) (hyear : 0 ≤ (Date.ofDays (millis / 86400000)).year)
    (hyear' : (Date.ofDays (millis / 86400000)).year ≤ 9999) : WallClock where
  date := .ofDays (millis / 86400000)
  hour := (millis % 86400000).toNat / 3600000
  minute := (millis % 86400000).toNat / 60000 % 60
  second := (millis % 86400000).toNat / 1000 % 60
  milli := (millis % 86400000).toNat % 1000
  date_exists := Date.exists_ofDays _
  year_nonneg := hyear
  year_le := hyear'
  hour_lt := by omega
  minute_lt := by omega
  second_lt := by omega
  milli_lt := by omega

theorem millis_ofMillis {millis : Int} (hyear : 0 ≤ (Date.ofDays (millis / 86400000)).year)
    (hyear' : (Date.ofDays (millis / 86400000)).year ≤ 9999) : (ofMillis millis hyear hyear').millis = millis := by
  show (Date.ofDays (millis / 86400000)).toDays * 86400000 + _ = millis
  rw [Date.toDays_ofDays]
  dsimp only [ofMillis]
  omega

/-- Each part of what a clock shows is found from its milliseconds. -/
theorem parts_eq (w : WallClock) : w.date.toDays = w.millis / 86400000 ∧ (w.hour : Int) = w.millis / 3600000 % 24 ∧
    (w.minute : Int) = w.millis / 60000 % 60 ∧ (w.second : Int) = w.millis / 1000 % 60 ∧
    (w.milli : Int) = w.millis % 1000 := by
  have hhour := w.hour_lt
  have hminute := w.minute_lt
  have hsecond := w.second_lt
  have hmilli := w.milli_lt
  unfold millis
  omega

theorem eq_of_millis_eq {w v : WallClock} (h : w.millis = v.millis) : w = v := by
  obtain ⟨hdays, hhour, hminute, hsecond, hmilli⟩ := w.parts_eq
  obtain ⟨hdays', hhour', hminute', hsecond', hmilli'⟩ := v.parts_eq
  rw [h] at hdays hhour hminute hsecond hmilli
  rw [← hdays'] at hdays
  rw [← hhour', Int.natCast_inj] at hhour
  rw [← hminute', Int.natCast_inj] at hminute
  rw [← hsecond', Int.natCast_inj] at hsecond
  rw [← hmilli', Int.natCast_inj] at hmilli
  have hdate : w.date = v.date := Date.eq_of_toDays_eq w.date_exists v.date_exists hdays
  cases w
  cases v
  congr

end WallClock
end ClusterConsole
