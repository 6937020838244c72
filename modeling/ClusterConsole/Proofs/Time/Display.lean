import Mathlib.Data.String.Basic
import ClusterConsole.Node.Document
import ClusterConsole.Proofs.Number.Decimal
import ClusterConsole.Proofs.Text.Reading
import ClusterConsole.Proofs.Time.Calendar
import ClusterConsole.Proofs.Time.Instant
import ClusterConsole.Time.Display

/-! # Times as shown

What is shown for a moment is a date of the calendar and a time of day, and reading them back gives the seconds on the
clocks of the zone. So moments of one second are shown alike and those of different seconds are not, and in the years
with four digits a later second has the greater text. -/

namespace ClusterConsole

/-! ### Earlier and later dates -/

namespace Date

/-- One date comes before another on the calendar. -/
def Before (d e : Date) : Prop :=
  d.year < e.year ∨ d.year = e.year ∧ (d.month < e.month ∨ d.month = e.month ∧ d.day < e.day)

theorem Before.trans {a b c : Date} (h : a.Before b) (h' : b.Before c) : a.Before c := by
  unfold Before at h h' ⊢
  omega

theorem before_tomorrow {d : Date} (h : d.Exists) : d.Before d.tomorrow := by
  obtain ⟨-, -, -, hlength⟩ := h
  unfold tomorrow Before
  split
  · dsimp only
    omega
  · split <;> · dsimp only; omega

theorem ofDays_succ (days : Int) : ofDays (days + 1) = (ofDays days).tomorrow := by
  have hexists := exists_ofDays days
  rw [← ofDays_toDays (exists_tomorrow hexists), toDays_tomorrow hexists, toDays_ofDays]

theorem before_ofDays {m n : Int} (h : m < n) : (ofDays m).Before (ofDays n) := by
  induction n, h using Int.leInduction with
  | base =>
    rw [ofDays_succ]
    exact before_tomorrow (exists_ofDays m)
  | succ n _ ih =>
    rw [ofDays_succ]
    exact ih.trans (before_tomorrow (exists_ofDays n))

theorem month_day_lt {d : Date} (h : d.Exists) : d.month.natAbs < 100 ∧ d.day.natAbs < 100 := by
  obtain ⟨hfirst, hlast, hday, hlength⟩ := h
  have hmonth := monthLength_le d.year d.month
  omega

end Date

/-! ### Reading what is shown -/

/-- Date and time of day as they are shown. A leap second is second 60. -/
structure Shown where
  date : Date
  hour : Nat
  minute : Nat
  second : Nat
deriving DecidableEq, Repr

namespace Shown

/-- The seconds on the clock since it showed the beginning of 1970. Second 60 comes one after second 59. -/
def seconds (s : Shown) : Int :=
  s.date.toDays * 86400 + (s.hour * 3600 + s.minute * 60 + s.second)

/-- One given character. -/
def expect? (c : Char) : List Char → Option (List Char)
  | [] => none
  | d :: rest => if d = c then some rest else none

/-- A number of two digits. -/
def twoDigits? : List Char → Option (Nat × List Char)
  | a :: b :: rest => if a.isDigit ∧ b.isDigit then some (Nat.ofDigitChars 10 [a, b] 0, rest) else none
  | _ => none

/-- A year: four digits, or a sign and at least four. -/
def year? : List Char → Option (Int × List Char)
  | [] => none
  | c :: rest =>
    let digits := rest.takeWhile Char.isDigit
    let rest := rest.dropWhile Char.isDigit
    if c.isDigit then
      if digits.length = 3 then some (Nat.ofDigitChars 10 (c :: digits) 0, rest) else none
    else if (c = '+' ∨ c = '-') ∧ 4 ≤ digits.length then
      some ((if c = '-' then -1 else 1) * Nat.ofDigitChars 10 digits 0, rest)
    else none

/-- Reads date and time of day, which have to be ones that calendar and clock have. -/
def read? (text : List Char) : Option Shown := do
  let (year, rest) ← year? text
  let (month, rest) ← twoDigits? (← expect? '-' rest)
  let (day, rest) ← twoDigits? (← expect? '-' rest)
  let (hour, rest) ← twoDigits? (← expect? ' ' rest)
  let (minute, rest) ← twoDigits? (← expect? ':' rest)
  let (second, rest) ← twoDigits? (← expect? ':' rest)
  if rest = [] ∧ Date.Exists ⟨year, month, day⟩ ∧ hour < 24 ∧ minute < 60 ∧ second ≤ 60 then
    some ⟨⟨year, month, day⟩, hour, minute, second⟩
  else none

theorem expect?_cons (c : Char) (rest : List Char) : expect? c (c :: rest) = some rest :=
  if_pos rfl

theorem twoDigits?_padded {n : Nat} (h : n < 100) (rest : List Char) :
    twoDigits? (Decimal.padded 2 n ++ rest) = some (n, rest) := by
  have hlength : (Decimal.padded 2 n).length = 2 := Decimal.length_padded (by decide) h
  have hdigits := Decimal.isDigit_padded 2 n
  have hvalue : Nat.ofDigitChars 10 (Decimal.padded 2 n) 0 = n := Decimal.ofDigitChars_padded
  match hpadded : Decimal.padded 2 n, hlength with
  | [a, b], _ =>
    rw [hpadded] at hdigits hvalue
    rw [List.cons_append, List.cons_append, twoDigits?, if_pos ⟨hdigits a (by simp), hdigits b (by simp)⟩, hvalue]
    rfl

theorem year?_yearText (year : Int) (rest : List Char) :
    year? (yearText year ++ '-' :: rest) = some (year, '-' :: rest) := by
  have hdigits := Decimal.isDigit_padded 4 year.natAbs
  have hvalue : Nat.ofDigitChars 10 (Decimal.padded 4 year.natAbs) 0 = year.natAbs := Decimal.ofDigitChars_padded
  have htake : ∀ {ds : List Char}, (∀ c ∈ ds, c.isDigit) → (ds ++ '-' :: rest).takeWhile Char.isDigit = ds := by
    intro ds hds
    rw [List.takeWhile_append_of_pos hds, List.takeWhile_cons_of_neg (by decide), List.append_nil]
  have hdrop : ∀ {ds : List Char}, (∀ c ∈ ds, c.isDigit) → (ds ++ '-' :: rest).dropWhile Char.isDigit = '-' :: rest := by
    intro ds hds
    rw [List.dropWhile_append_of_pos hds, List.dropWhile_cons_of_neg (by decide)]
  unfold yearText
  split
  · rename_i hfour
    -- A year without a sign has four digits and no more.
    have hlength : (Decimal.padded 4 year.natAbs).length = 4 :=
      Decimal.length_padded (by decide) (by change year.natAbs < 10000; omega)
    match hpadded : Decimal.padded 4 year.natAbs, hlength with
    | c :: ds, hlength =>
      rw [hpadded] at hdigits hvalue
      obtain ⟨hc, hds⟩ := List.forall_mem_cons.mp hdigits
      rw [List.cons_append, year?, if_pos hc, htake hds, if_pos (Nat.succ.inj hlength), hdrop hds, hvalue,
        Int.natAbs_of_nonneg hfour.1]
  -- Behind a sign there are at least four.
  · have hlength : 4 ≤ (Decimal.padded 4 year.natAbs).length := by
      rw [Decimal.padded, List.length_append, List.length_replicate]
      omega
    rw [List.cons_append, year?, htake hdigits, hdrop hdigits, hvalue]
    split
    · rename_i hneg
      rw [if_neg (by decide), if_pos ⟨.inr rfl, hlength⟩, if_pos rfl]
      congr 2
      omega
    · rename_i hneg
      rw [if_neg (by decide), if_pos ⟨.inl rfl, hlength⟩, if_neg (by decide)]
      congr 2
      omega

end Shown

namespace Instant
variable (t u : Instant) (zone : DisplayZone)

/-- What is shown for a moment on the clocks of a zone. -/
def shown : Shown where
  date := .ofDays (t.wallSeconds zone / 86400)
  hour := (t.wallSeconds zone % 86400).toNat / 3600
  minute := (t.wallSeconds zone % 86400).toNat / 60 % 60
  second := (t.wallSeconds zone % 86400).toNat % 60 + if t.isLeap then 1 else 0

theorem hour_lt_minute_lt_second_le :
    (t.shown zone).hour < 24 ∧ (t.shown zone).minute < 60 ∧ (t.shown zone).second ≤ 60 := by
  dsimp only [shown]
  split <;> omega

theorem toList_display : (t.display zone).toList =
    yearText (t.shown zone).date.year ++ '-' :: (Decimal.padded 2 (t.shown zone).date.month.natAbs ++ '-' ::
      (Decimal.padded 2 (t.shown zone).date.day.natAbs ++ ' ' :: (Decimal.padded 2 (t.shown zone).hour ++ ':' ::
        (Decimal.padded 2 (t.shown zone).minute ++ ':' :: Decimal.padded 2 (t.shown zone).second)))) := by
  rw [display, String.toList_ofList, displayPattern, String.toList_ofList]
  simp [filled, fieldText, shown]

/-- What is shown can be read. -/
theorem read?_display : Shown.read? (t.display zone).toList = some (t.shown zone) := by
  obtain ⟨hhour, hminute, hsecond⟩ := t.hour_lt_minute_lt_second_le zone
  have hexists : (t.shown zone).date.Exists := Date.exists_ofDays _
  obtain ⟨hmonth, hday⟩ := Date.month_day_lt hexists
  have hdate : Date.mk (t.shown zone).date.year (t.shown zone).date.month.natAbs (t.shown zone).date.day.natAbs =
      (t.shown zone).date := by
    obtain ⟨hmonth, -, hday, -⟩ := hexists
    rw [Int.natAbs_of_nonneg (by omega), Int.natAbs_of_nonneg (by omega)]
  have hend : Shown.twoDigits? (Decimal.padded 2 (t.shown zone).second) = some ((t.shown zone).second, []) := by
    rw [← List.append_nil (Decimal.padded 2 _), Shown.twoDigits?_padded (by omega)]
  rw [toList_display]
  simp only [Shown.read?, Shown.year?_yearText, Shown.expect?_cons, Shown.twoDigits?_padded hmonth,
    Shown.twoDigits?_padded hday, Shown.twoDigits?_padded (show (t.shown zone).hour < 100 by omega),
    Shown.twoDigits?_padded (show (t.shown zone).minute < 100 by omega), hend, bind, Option.bind_some]
  rw [hdate, if_pos ⟨trivial, hexists, hhour, hminute, hsecond⟩]

theorem seconds_shown : (t.shown zone).seconds = t.wallSeconds zone + if t.isLeap then 1 else 0 := by
  unfold Shown.seconds shown
  dsimp only
  rw [Date.toDays_ofDays]
  split <;> omega

/-! ### Order -/

/-- A leap second is inserted at the end of a minute. -/
def EndsMinute : Prop :=
  t.isLeap = true → t.seconds % 60 = 59

variable {t u}

theorem second_shown_of_leap (h : t.EndsMinute) (hleap : t.isLeap = true) : (t.shown zone).second = 60 := by
  have hminute : zone.offset % 60 = 0 := by cases zone <;> rfl
  have hsecond := h hleap
  unfold shown wallSeconds
  dsimp only
  rw [if_pos hleap]
  omega

/-- In the years with four digits an earlier date has the smaller text. -/
theorem dateText_lt {d e : Date} (hd : d.Exists) (he : e.Exists) (hfirst : 0 ≤ d.year) (hlast : e.year ≤ 9999)
    (h : d.Before e) (rest rest' : List Char) :
    yearText d.year ++ '-' :: (Decimal.padded 2 d.month.natAbs ++ '-' :: (Decimal.padded 2 d.day.natAbs ++ rest)) <
      yearText e.year ++ '-' :: (Decimal.padded 2 e.month.natAbs ++ '-' :: (Decimal.padded 2 e.day.natAbs ++ rest')) := by
  obtain ⟨hmonth, hday⟩ := Date.month_day_lt he
  obtain ⟨hfirstMonth, -, hfirstDay, -⟩ := hd
  have hyears : d.year ≤ e.year := by
    unfold Date.Before at h
    omega
  rw [yearText, if_pos (by omega), yearText, if_pos (by omega)]
  rcases h with hyear | ⟨hyear, hmonth' | ⟨hmonth', hday'⟩⟩
  · exact Decimal.padded_append_lt (by decide) (by omega) (show e.year.natAbs < 10000 by omega) _ _
  · rw [hyear]
    refine List.append_left_lt (List.cons_lt_cons_iff.mpr (.inr ⟨rfl, ?_⟩))
    exact Decimal.padded_append_lt (by decide) (by omega) hmonth _ _
  · rw [hyear, hmonth']
    refine List.append_left_lt (List.cons_lt_cons_iff.mpr (.inr ⟨rfl, ?_⟩))
    refine List.append_left_lt (List.cons_lt_cons_iff.mpr (.inr ⟨rfl, ?_⟩))
    exact Decimal.padded_append_lt (by decide) (by omega) hday _ _

/-- An earlier time of day has the smaller text. -/
theorem timeText_lt {hour minute second hour' minute' second' : Nat} (hhour : hour' < 24) (hminute : minute' < 60)
    (hsecond : second' ≤ 60)
    (h : hour < hour' ∨ hour = hour' ∧ (minute < minute' ∨ minute = minute' ∧ second < second')) :
    Decimal.padded 2 hour ++ ':' :: (Decimal.padded 2 minute ++ ':' :: Decimal.padded 2 second) <
      Decimal.padded 2 hour' ++ ':' :: (Decimal.padded 2 minute' ++ ':' :: Decimal.padded 2 second') := by
  have htwo : ∀ {m n : Nat}, m < n → n < 100 → ∀ rest rest' : List Char,
      Decimal.padded 2 m ++ rest < Decimal.padded 2 n ++ rest' :=
    fun hlt hn => Decimal.padded_append_lt (by decide) hlt hn
  rcases h with hlt | ⟨rfl, hlt | ⟨rfl, hlt⟩⟩
  · exact htwo hlt (by omega) _ _
  · refine List.append_left_lt (List.cons_lt_cons_iff.mpr (.inr ⟨rfl, ?_⟩))
    exact htwo hlt (by omega) _ _
  · refine List.append_left_lt (List.cons_lt_cons_iff.mpr (.inr ⟨rfl, ?_⟩))
    refine List.append_left_lt (List.cons_lt_cons_iff.mpr (.inr ⟨rfl, ?_⟩))
    have hlast := htwo hlt (by omega) [] []
    rwa [List.append_nil, List.append_nil] at hlast

/-- In the years with four digits a later second has the greater text. -/
theorem display_lt (ht : t.EndsMinute) (hfirst : 0 ≤ (t.shown zone).date.year)
    (hlast : (u.shown zone).date.year ≤ 9999) (h : t.seconds < u.seconds) : t.display zone < u.display zone := by
  rw [String.lt_iff_toList_lt, toList_display, toList_display]
  have hwall : t.wallSeconds zone < u.wallSeconds zone := Int.add_lt_add_right h zone.offset
  by_cases hday : t.wallSeconds zone / 86400 < u.wallSeconds zone / 86400
  · exact dateText_lt (Date.exists_ofDays _) (Date.exists_ofDays _) hfirst hlast (Date.before_ofDays hday) _ _
  · have hdate : (t.shown zone).date = (u.shown zone).date := congrArg Date.ofDays (by omega)
    obtain ⟨hhour, hminute, hsecond⟩ := u.hour_lt_minute_lt_second_le zone
    rw [hdate]
    refine List.append_left_lt (List.cons_lt_cons_iff.mpr (.inr ⟨rfl, ?_⟩))
    refine List.append_left_lt (List.cons_lt_cons_iff.mpr (.inr ⟨rfl, ?_⟩))
    refine List.append_left_lt (List.cons_lt_cons_iff.mpr (.inr ⟨rfl, ?_⟩))
    refine timeText_lt hhour hminute hsecond ?_
    -- A second that another one of its minute follows is not the last, so no leap second is put behind it.
    have hleap := second_shown_of_leap zone ht
    unfold shown at hleap ⊢
    dsimp only at hleap ⊢
    split
    · rename_i htleap
      have := hleap htleap
      rw [if_pos htleap] at this
      omega
    · omega

theorem display_eq_iff (ht : t.isLeap = false) (hu : u.isLeap = false) :
    t.display zone = u.display zone ↔ t.seconds = u.seconds := by
  constructor
  · intro h
    have hshown : t.shown zone = u.shown zone := by
      rw [← Option.some_inj, ← read?_display, ← read?_display, h]
    have hseconds := congrArg Shown.seconds hshown
    rw [seconds_shown, seconds_shown, ht, hu] at hseconds
    unfold wallSeconds at hseconds
    simp only [Bool.false_eq_true, if_false] at hseconds
    omega
  · intro h
    unfold display wallSeconds
    rw [ht, hu, h]

/-! ### Moments of documents -/

theorem seconds_of_ofMillis? {millis : Int} (h : ofMillis? millis = some t) :
    t.isLeap = false ∧ t.seconds = millis / 1000 := by
  unfold ofMillis? at h
  split at h
  · obtain rfl := Option.some.inj h
    unfold isLeap nanosPerSecond
    simp only [decide_eq_false_iff_not, and_true]
    omega
  · cases h

end Instant

namespace Rfc3339

theorem timeOfDay_yields_endsMinute (input : Input) :
    Yields (fun time => Instant.nanosPerSecond ≤ time.2.1 → time.1 % 60 = 59) (timeOfDay input) := by
  unfold timeOfDay
  refine .after fun ⟨hour, _⟩ => .after fun _ => .after fun ⟨minute, _⟩ => .after fun _ => ?_
  refine .after fun ⟨second, rest⟩ => ?_
  refine (fraction_yields rest).bind fun ⟨nanos, rest⟩ hnanos => ?_
  dsimp only at hnanos ⊢
  split
  · exact .error _
  · split
    · refine .ok fun _ => ?_
      dsimp only
      omega
    · exact .ok fun hleap => absurd hnanos (Nat.not_lt_of_le hleap)

/-- Offsets are whole minutes. -/
theorem offset_yields (input : Input) : Yields (fun offset => offset.1 % 60 = 0) (offset input) := by
  have signed : Yields (fun offset => offset.1 % 60 = 0) (offset.signedOffset input) := by
    unfold offset.signedOffset
    refine .after fun ⟨sign, _⟩ => .after fun ⟨hours, _⟩ => .after fun _ => .after fun ⟨minutes, _⟩ => ?_
    dsimp only
    split
    · exact .error _
    · refine .ok ?_
      have hminutes : (hours : Int) * 3600 + minutes * 60 = (hours * 60 + minutes) * 60 := by omega
      dsimp only
      rw [hminutes, ← Int.mul_assoc, Int.mul_emod_left]
  unfold offset
  split
  · split
    · exact .ok rfl
    · exact signed
  · exact .error _

theorem parse_yields_endsMinute (text : String) : Yields Instant.EndsMinute (parse text) := by
  unfold parse
  dsimp only
  split
  · exact .error _
  refine .after fun ⟨date, _⟩ => .after fun rest => ?_
  refine (timeOfDay_yields_endsMinute rest).bind fun ⟨second, nanos, rest⟩ htime => ?_
  refine (offset_yields rest).bind fun ⟨offset, rest⟩ hoffset => ?_
  dsimp only at htime hoffset ⊢
  split
  · exact .error _
  split
  · exact .error _
  · refine .ok fun hleap => ?_
    have hsecond := htime (of_decide_eq_true hleap)
    dsimp only
    omega

end Rfc3339

namespace Instant
open Json

theorem ofMillis?_of_ofValue {millis : Int} {t : Instant} (h : ofValue (.number (.integer millis)) = .ok t) :
    ofMillis? millis = some t := by
  unfold ofValue at h
  dsimp only at h
  split at h
  · split at h
    · rename_i t' ht
      obtain rfl := Except.ok.inj h
      exact ht
    · cases h
  · cases h

theorem endsMinute_of_ofValue {v : Value} {t : Instant} (h : ofValue v = .ok t) : t.EndsMinute := by
  match v with
  | .number (.integer millis) =>
    have hleap := (seconds_of_ofMillis? (ofMillis?_of_ofValue h)).1
    exact fun htrue => absurd (hleap.symm.trans htrue) Bool.false_ne_true
  | .text s =>
    rw [ofValue] at h
    split at h
    · rename_i t' ht
      obtain rfl := Except.ok.inj h
      exact Rfc3339.parse_yields_endsMinute _ _ ht
    · cases h
  | .null => cases h
  | .boolean _ => cases h
  | .number (.fraction _) => cases h
  | .compound => cases h

/-- Whatever moment a document gives, what is shown for it is a date of the calendar and a time of day, and read back
    they are the second that it falls in on the clocks of the zone, or one more in a leap second, which is second 60. The
    second of a count of milliseconds is that count, floored. Moments outside leap seconds are shown alike exactly when
    they fall in the same second, and in the years with four digits a later second has the greater text. -/
theorem display_read_back {v : Value} {t : Instant} (h : ofValue v = .ok t) (zone : DisplayZone) :
    Date.Calendar Date.toDays Date.ofDays ∧
      (Shown.read? (displayCreated (some t) zone).toList = some (t.shown zone) ∧
        (t.shown zone).seconds = t.seconds + zone.offset + (if t.isLeap then 1 else 0) ∧
        (t.isLeap = true → (t.shown zone).second = 60) ∧
        ∀ millis, v = .number (.integer millis) → t.isLeap = false ∧ t.seconds = millis / 1000) ∧
      ∀ u : Instant,
        (t.isLeap = false → u.isLeap = false →
          (displayCreated (some t) zone = displayCreated (some u) zone ↔ t.seconds = u.seconds)) ∧
        (0 ≤ (t.shown zone).date.year → (u.shown zone).date.year ≤ 9999 → t.seconds < u.seconds →
          displayCreated (some t) zone < displayCreated (some u) zone) := by
  have ht := endsMinute_of_ofValue h
  refine ⟨Date.calendar, ⟨t.read?_display zone, t.seconds_shown zone, second_shown_of_leap zone ht, ?_⟩, fun u =>
    ⟨display_eq_iff zone, display_lt zone ht⟩⟩
  rintro millis rfl
  exact seconds_of_ofMillis? (ofMillis?_of_ofValue h)

/-- The leap second at the end of 1972 in UTC is in a morning of 1973 on local clocks, before the next second there. -/
theorem display_read_back_leapSecond :
    let t : Instant := ⟨94694399, 1500000000⟩
    ofValue (.text "1972-12-31T23:59:60.5Z") = .ok t ∧
      Shown.read? (displayCreated (some t) .local).toList = some ⟨⟨1973, 1, 1⟩, 5, 29, 60⟩ ∧
      (⟨⟨1973, 1, 1⟩, 5, 29, 60⟩ : Shown).seconds = 94694399 + 19800 + 1 ∧
      displayCreated (some t) .local < displayCreated (some ⟨94694400, 0⟩) .local := by
  intro t
  have hread : ofValue (.text "1972-12-31T23:59:60.5Z") = .ok t := toOption_eq_some_iff.mp (by decide +kernel)
  have hshown : t.shown .local = ⟨⟨1973, 1, 1⟩, 5, 29, 60⟩ := by decide
  obtain ⟨-, ⟨htext, hseconds, -, -⟩, horder⟩ := display_read_back hread .local
  rw [hshown] at htext hseconds
  exact ⟨hread, htext, hseconds, (horder ⟨94694400, 0⟩).2 (by decide) (by decide) (by decide)⟩

end Instant
end ClusterConsole
