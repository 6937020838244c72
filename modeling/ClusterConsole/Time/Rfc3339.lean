import ClusterConsole.Text.Ascii
import ClusterConsole.Text.Utf8
import ClusterConsole.Time.Instant

/-! # Date and time in text

The profile of RFC 3339: a date, a separator, a time of day with an optional fraction, and an offset from
UTC. Faults are named in the order in which the text is read; a date, a time of day or an offset that does
not exist is found where its last digit has been read. -/

namespace ClusterConsole.Rfc3339
open Ascii

/-- What is wrong with a text that should be a date and time. -/
inductive Fault where
  /-- The text ends too early. -/
  | premature
  /-- A character cannot stand where it does. -/
  | invalid
  /-- A number is of the right form but names nothing. -/
  | outOfRange
  /-- The text goes on after the offset. -/
  | trailing
deriving DecidableEq, Repr

/-- The fault in words. -/
def Fault.message : Fault → String
  | .premature => "premature end of input"
  | .invalid => "input contains invalid characters"
  | .outOfRange => "input is out of range"
  | .trailing => "trailing input"

/-- What remains to be read, as bytes. -/
abbrev Input := List UInt8

/-- A number of exactly `count` digits, added to what was read before them. -/
def digits (count : Nat) (sofar : Nat) (input : Input) : Except Fault (Nat × Input) :=
  match count, input with
  | 0, rest => .ok (sofar, rest)
  | _ + 1, [] => .error .premature
  | count + 1, b :: rest =>
    match digit? b with
    | some d => digits count (10 * sofar + d) rest
    | none => .error .invalid

/-- One given character. -/
def expect (c : Char) (input : Input) : Except Fault Input :=
  match input with
  | [] => .error .premature
  | b :: rest => if b = byte c then .ok rest else .error .invalid

/-- The date at the beginning of the text. -/
def date (input : Input) : Except Fault (Date × Input) := do
  let (year, rest) ← digits 4 0 input
  let rest ← expect '-' rest
  let (month, rest) ← digits 2 0 rest
  let rest ← expect '-' rest
  let (day, rest) ← digits 2 0 rest
  let date : Date := ⟨year, month, day⟩
  if date.Exists then .ok (date, rest) else .error .outOfRange

/-- The separator of date and time. -/
def separator (input : Input) : Except Fault Input :=
  match input with
  | [] => .error .premature
  | b :: rest => if b = byte 'T' ∨ b = byte 't' ∨ b = byte ' ' then .ok rest else .error .invalid

/-- The digits of a fraction: `places` more of them count, `value` is what was read before, in units of
    the last place. -/
def fractionDigits (value : Nat) : Nat → Input → Nat × Input
  | places, b :: rest =>
    match digit? b, places with
    | some d, places + 1 => fractionDigits (value + d * Nat.pow 10 places) places rest
    | some _, 0 => fractionDigits value 0 rest
    | none, _ => (value, b :: rest)
  | _, [] => (value, [])

/-- The nanoseconds of a fraction: after a point at least one digit, of which nine count. -/
def fraction (input : Input) : Except Fault (Nat × Input) :=
  match input with
  | b :: rest =>
    if b = byte '.' then
      match rest with
      | [] => .error .premature
      | d :: _ => if (digit? d).isSome then .ok (fractionDigits 0 9 rest) else .error .invalid
    else .ok (0, input)
  | [] => .ok (0, [])

/-- The time of day: seconds since midnight, and nanoseconds. Second 60 may stand in any minute and is the
    leap second after second 59. -/
def timeOfDay (input : Input) : Except Fault (Nat × Nat × Input) := do
  let (hour, rest) ← digits 2 0 input
  let rest ← expect ':' rest
  let (minute, rest) ← digits 2 0 rest
  let rest ← expect ':' rest
  let (second, rest) ← digits 2 0 rest
  let (nanos, rest) ← fraction rest
  if 23 < hour ∨ 59 < minute ∨ 60 < second then .error .outOfRange
  else if second = 60 then .ok (hour * 3600 + minute * 60 + 59, Instant.nanosPerSecond + nanos, rest)
  else .ok (hour * 3600 + minute * 60 + second, nanos, rest)

/-- Two digits of an offset, whose bounds are checked by what reads them. -/
def offsetDigits (input : Input) : Except Fault (Nat × Input) :=
  match input with
  | a :: b :: rest =>
    match digit? a, digit? b with
    | some a, some b => .ok (10 * a + b, rest)
    | _, _ => .error .invalid
  | _ => .error .premature

/-- The sign of an offset: a plus, a hyphen or a minus sign (U+2212). -/
def offsetSign (input : Input) : Except Fault (Int × Input) :=
  match input with
  | [] => .error .premature
  | b :: rest =>
    if b = byte '+' then .ok (1, rest)
    else if b = byte '-' then .ok (-1, rest)
    else if input.take 3 = Utf8.encode ['\u2212'] then .ok (-1, rest.drop 2)
    else .error .invalid

/-- The offset from UTC, in seconds. -/
def offset (input : Input) : Except Fault (Int × Input) :=
  match input with
  | b :: rest =>
    if b = byte 'Z' ∨ b = byte 'z' then .ok (0, rest) else signedOffset input
  | [] => .error .premature
where
  signedOffset (input : Input) : Except Fault (Int × Input) := do
    let (sign, rest) ← offsetSign input
    let (hours, rest) ← offsetDigits rest
    let rest ← expect ':' rest
    let (minutes, rest) ← offsetDigits rest
    if 59 < minutes then .error .outOfRange
    else .ok (sign * (hours * 3600 + minutes * 60), rest)

/-- The fewest bytes of a date and time without offset. -/
def leastLength : Nat := 19

/-- The moment that a text names. -/
def parse (text : String) : Except Fault Instant := do
  let input := Utf8.ofString text
  if input.length < leastLength then throw .premature
  let (date, rest) ← date input
  let rest ← separator rest
  let (second, nanos, rest) ← timeOfDay rest
  let (offset, rest) ← offset rest
  if rest ≠ [] then throw .trailing
  if 86400 ≤ offset.natAbs then throw .outOfRange
  return ⟨date.toDays * 86400 + second - offset, nanos⟩

end ClusterConsole.Rfc3339
