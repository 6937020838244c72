import ClusterConsole.Time.Rfc3339
import ClusterConsole.Proofs.Text.Ascii
import ClusterConsole.Proofs.Text.Reading
import ClusterConsole.Proofs.Time.Calendar

/-! # Moments and their milliseconds

A moment that is read, from a count of milliseconds or from a text, is one that its count of milliseconds gives
back, up to what is less than a millisecond. A leap second comes back as the second after it. -/

namespace ClusterConsole

/-- The days of the years 0 to 9999. -/
theorem Date.toDays_bounds {d : Date} (hfirst : 0 ≤ d.year) (hlast : d.year < 10000) (h : d.Exists) :
    -800000 ≤ d.toDays ∧ d.toDays ≤ 4000000 := by
  obtain ⟨hmonth, hmonth', hday, hday'⟩ := h
  have hlength := monthLength_le d.year d.month
  unfold toDays
  dsimp only
  split <;> omega

namespace Instant
variable {t : Instant}

/-- A moment whose count of milliseconds is that of a moment. -/
structure Representable (t : Instant) : Prop where
  first_le : firstMillis ≤ t.toMillis
  le_last : t.toMillis ≤ lastMillis
  nanos_lt : t.nanos < 2 * nanosPerSecond

/-- The moment without what is less than a millisecond. A leap second becomes the second after it. -/
def floorMillis (t : Instant) : Instant :=
  if t.isLeap then ⟨t.seconds + 1, (t.nanos - nanosPerSecond) / 1000000 * 1000000⟩
  else ⟨t.seconds, t.nanos / 1000000 * 1000000⟩

theorem toMillis_floorMillis (t : Instant) : t.floorMillis.toMillis = t.toMillis := by
  unfold floorMillis isLeap nanosPerSecond toMillis
  split
  · rename_i h
    have hnanos : 1000000000 ≤ t.nanos := by simpa using h
    dsimp only
    omega
  · dsimp only
    omega

theorem ofMillis?_toMillis (h : t.Representable) : ofMillis? t.toMillis = some t.floorMillis := by
  have hnanos := h.nanos_lt
  rw [ofMillis?, if_pos ⟨h.first_le, h.le_last⟩]
  unfold floorMillis isLeap nanosPerSecond toMillis
  unfold nanosPerSecond at hnanos
  split
  · rename_i hleap
    have hleap' : 1000000000 ≤ t.nanos := by simpa using hleap
    rw [Option.some.injEq, mk.injEq]
    constructor <;> omega
  · rename_i hleap
    have hleap' : t.nanos < 1000000000 := by simpa using hleap
    rw [Option.some.injEq, mk.injEq]
    constructor <;> omega

theorem representable_of_ofMillis? {millis : Int} (h : ofMillis? millis = some t) : t.Representable := by
  unfold ofMillis? at h
  split at h
  · rename_i hbounds
    obtain rfl := Option.some.inj h
    have hmillis : toMillis ⟨millis / 1000, (millis % 1000).toNat * 1000000⟩ = millis := by
      unfold toMillis
      dsimp only
      omega
    refine ⟨?_, ?_, ?_⟩
    · rw [hmillis]
      exact hbounds.1
    · rw [hmillis]
      exact hbounds.2
    · unfold nanosPerSecond
      dsimp only
      omega
  · cases h

end Instant

namespace Rfc3339
open Ascii

theorem digits_yields (count sofar : Nat) (input : Input) :
    Yields (·.1 < (sofar + 1) * Nat.pow 10 count) (digits count sofar input) := by
  induction count generalizing sofar input with
  | zero =>
    rw [digits]
    exact .ok (show sofar < (sofar + 1) * 1 by omega)
  | succ count ih =>
    cases input with
    | nil => exact .error _
    | cons b rest =>
      rw [digits]
      cases hd : digit? b with
      | none => exact .error _
      | some d =>
        have hlt := digit?_lt hd
        refine (ih (10 * sofar + d) rest).mono fun x hx => Nat.lt_of_lt_of_le hx ?_
        calc (10 * sofar + d + 1) * Nat.pow 10 count ≤ (sofar + 1) * 10 * Nat.pow 10 count :=
              Nat.mul_le_mul_right _ (by omega)
          _ = (sofar + 1) * (Nat.pow 10 count * 10) := by rw [Nat.mul_assoc, Nat.mul_comm 10]

theorem fractionDigits_lt {value places : Nat} {input : Input}
    (h : value + Nat.pow 10 places ≤ Instant.nanosPerSecond) :
    (fractionDigits value places input).1 < Instant.nanosPerSecond := by
  have hvalue : value < Instant.nanosPerSecond :=
    Nat.lt_of_lt_of_le (Nat.lt_add_of_pos_right (Nat.pow_pos (by omega))) h
  induction input generalizing value places with
  | nil => cases places <;> exact hvalue
  | cons b rest ih =>
    unfold fractionDigits
    cases hd : digit? b with
    | none => exact hvalue
    | some d =>
      cases places with
      | zero => exact ih h hvalue
      | succ places =>
        have hlt := digit?_lt hd
        have hmul : (d + 1) * Nat.pow 10 places ≤ 10 * Nat.pow 10 places := Nat.mul_le_mul_right _ (by omega)
        have hpow : Nat.pow 10 (places + 1) = 10 * Nat.pow 10 places := Nat.mul_comm _ _
        have hpos : 0 < Nat.pow 10 places := Nat.pow_pos (by omega)
        rw [Nat.add_mul, Nat.one_mul] at hmul
        exact ih (by omega) (by omega)

theorem fraction_yields (input : Input) : Yields (·.1 < Instant.nanosPerSecond) (fraction input) := by
  unfold fraction
  split
  · split
    · split
      · exact .error _
      · split
        · exact .ok (fractionDigits_lt (by decide))
        · exact .error _
    · exact .ok (show 0 < Instant.nanosPerSecond by decide)
  · exact .ok (show 0 < Instant.nanosPerSecond by decide)

theorem timeOfDay_yields (input : Input) :
    Yields (fun time => time.1 < 86400 ∧ time.2.1 < 2 * Instant.nanosPerSecond) (timeOfDay input) := by
  unfold timeOfDay
  refine .after fun ⟨hour, _⟩ => .after fun _ => .after fun ⟨minute, _⟩ => .after fun _ => ?_
  refine .after fun ⟨second, rest⟩ => ?_
  refine (fraction_yields rest).bind fun ⟨nanos, rest⟩ hnanos => ?_
  dsimp only at hnanos ⊢
  unfold Instant.nanosPerSecond at hnanos ⊢
  split
  · exact .error _
  · split
    · exact .ok ⟨by dsimp only; omega, by dsimp only; omega⟩
    · exact .ok ⟨by dsimp only; omega, by dsimp only; omega⟩

theorem date_yields (input : Input) :
    Yields (fun date => -800000 ≤ date.1.toDays ∧ date.1.toDays ≤ 4000000) (date input) := by
  unfold date
  refine (digits_yields 4 0 input).bind fun ⟨year, _⟩ hyear => ?_
  refine .after fun _ => .after fun ⟨month, _⟩ => .after fun _ => .after fun ⟨day, rest⟩ => ?_
  change year < 10000 at hyear
  dsimp only
  split
  · rename_i hexists
    exact .ok (Date.toDays_bounds (Int.natCast_nonneg year) (by dsimp only; omega) hexists)
  · exact .error _

/-- A text names a moment that can be written. -/
theorem parse_yields (text : String) : Yields Instant.Representable (parse text) := by
  unfold parse
  dsimp only
  split
  · exact .error _
  refine (date_yields _).bind fun ⟨date, _⟩ hdate => .after fun rest => ?_
  refine (timeOfDay_yields rest).bind fun ⟨second, nanos, _⟩ htime => .after fun ⟨offset, rest⟩ => ?_
  dsimp only at hdate htime ⊢
  split
  · exact .error _
  split
  · exact .error _
  · refine .ok ⟨?_, ?_, htime.2⟩
    · unfold Instant.firstMillis Instant.toMillis
      dsimp only
      omega
    · have hnanos := htime.2
      unfold Instant.nanosPerSecond at hnanos
      unfold Instant.lastMillis Instant.toMillis
      dsimp only
      omega

end Rfc3339
end ClusterConsole
