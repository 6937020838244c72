import ClusterConsole.Number.Decimal
import ClusterConsole.Number.Shortest
import ClusterConsole.Time.Calendar
import ClusterConsole.Toml.Item
import ClusterConsole.Url.Address

/-! # Numbers, truth values, dates and times of TOML

A scalar without quotes ends where a blank, a comma, a closing bracket or a comment begins, so it is cut out
first and then has to be of one of the forms as a whole. -/

namespace ClusterConsole.Toml

/-- Whether a character cannot stand in a scalar without quotes. -/
def endsScalar (c : Char) : Bool :=
  c == ' ' || c == '\t' || c == '\n' || c == '\r' || c == ',' || c == ']' || c == '\x7d' || c == '#'

/-! ### Numbers -/

/-- Digits with single underscores between them, without these. -/
def separated? (isDigit : Char → Bool) : List Char → Option (List Char)
  | [] => none
  | [c] => if isDigit c then some [c] else none
  | c :: '_' :: rest => if isDigit c then (separated? isDigit rest).map (c :: ·) else none
  | c :: rest => if isDigit c then (separated? isDigit rest).map (c :: ·) else none

/-- The sign of a number, if there is one, and what follows. -/
def splitSign : List Char → Bool × List Char
  | '-' :: rest => (true, rest)
  | '+' :: rest => (false, rest)
  | text => (false, text)

/-- Decimal digits of a whole number: no zero in front of others. -/
def wholeDigits? (text : List Char) : Option (List Char) := do
  let digits ← separated? Decimal.isDigit text
  if digits.head? = some '0' ∧ 1 < digits.length then none else some digits

/-- A whole number in decimal. -/
def decimal? (text : List Char) : Option Int := do
  let (negative, rest) := splitSign text
  let n := Decimal.ofDigits (← wholeDigits? rest)
  if negative then if n ≤ Word.signedLimit then some (-n) else none
  else if n < Word.signedLimit then some n else none

/-- A whole number in another base. -/
def based? (radix : Nat) (text : List Char) : Option Int := do
  let n ← ofRadix? radix (← separated? (fun c => ((hexValue? c).map (decide <| · < radix)).getD false) text)
  if n < Word.signedLimit then some n else none

/-- A whole number. -/
def integer? : List Char → Option Int
  | '0' :: 'x' :: rest => based? 16 rest
  | '0' :: 'o' :: rest => based? 8 rest
  | '0' :: 'b' :: rest => based? 2 rest
  | text => decimal? text

/-- Whether a positive decimal number is too great for binary floating point. -/
def overflows (digits : Nat) (exponent : Int) : Bool :=
  if digits = 0 ∨ exponent + (Decimal.digits digits).length < 300 then false
  else if 320 < exponent + (Decimal.digits digits).length then true
  else !(Scientific.nearest ⟨digits, exponent⟩).isFinite

/-- The parts of a number with fraction or exponent: the digits before the point, those after it, and the
    exponent. -/
def floatParts? (text : List Char) : Option (List Char × List Char × Int) := do
  let isMark := fun c => c == 'e' || c == 'E'
  let front := text.takeWhile (!isMark ·)
  let exponent ← match text.dropWhile (!isMark ·) with
    | [] => some none
    | _ :: rest => do
      let (negative, rest) := splitSign rest
      let n : Int := Decimal.ofDigits (← separated? Decimal.isDigit rest)
      some (some (if negative then -n else n))
  let whole ← wholeDigits? (front.takeWhile (· != '.'))
  match front.dropWhile (· != '.'), exponent with
  | [], none => none
  | [], some exponent => some (whole, [], exponent)
  | _ :: fraction, exponent => some (whole, ← separated? Decimal.isDigit fraction, exponent.getD 0)

/-- Whether a text is a number with fraction or exponent, or one of the special values. -/
def isFloat (text : List Char) : Bool :=
  let (negative, rest) := splitSign text
  rest == ['i', 'n', 'f'] || rest == ['n', 'a', 'n'] ||
    match floatParts? rest with
    | none => false
    | some (whole, fraction, exponent) =>
      negative || !overflows (Decimal.ofDigits (whole ++ fraction)) (exponent - fraction.length)

/-! ### Dates and times -/

/-- The number of exactly `count` digits at the front of a text. -/
def fixed? (count : Nat) (text : List Char) : Option (Nat × List Char) := do
  let digits := text.take count
  if digits.length = count then some (← Decimal.natural? digits, text.drop count) else none

/-- What remains after a character. -/
def after? (c : Char) : List Char → Option (List Char)
  | d :: rest => if d = c then some rest else none
  | [] => none

/-- What remains after a date. -/
def date? (text : List Char) : Option (List Char) := do
  let (year, rest) ← fixed? 4 text
  let (month, rest) ← fixed? 2 (← after? '-' rest)
  let (day, rest) ← fixed? 2 (← after? '-' rest)
  if (Date.mk year month day).Exists then some rest else none

/-- What remains after a fraction of a second, if there is one. -/
def fraction? : List Char → Option (List Char)
  | '.' :: rest =>
    if (rest.head?.map Decimal.isDigit).getD false then some (rest.dropWhile Decimal.isDigit) else none
  | rest => some rest

/-- What remains after a time of day. -/
def time? (text : List Char) : Option (List Char) := do
  let (hour, rest) ← fixed? 2 text
  let (minute, rest) ← fixed? 2 (← after? ':' rest)
  let (second, rest) ← fixed? 2 (← after? ':' rest)
  if hour < 24 ∧ minute < 60 ∧ second ≤ 60 then fraction? rest else none

/-- Whether a text is an offset from UTC. -/
def isOffset : List Char → Bool
  | ['Z'] => true
  | ['z'] => true
  | sign :: rest =>
    (sign == '+' || sign == '-') &&
      match (do
        let (hour, rest) ← fixed? 2 rest
        let (minute, rest) ← fixed? 2 (← after? ':' rest)
        some (decide (hour < 24 ∧ minute < 60 ∧ rest = []))) with
      | some valid => valid
      | none => false
  | [] => false

/-- Whether a text is a date, a time, or both with or without an offset. -/
def isDateTime (text : List Char) : Bool :=
  match date? text with
  | some [] => true
  | some (c :: rest) =>
    (c == 'T' || c == 't' || c == ' ') &&
      match time? rest with
      | some rest => rest == [] || isOffset rest
      | none => false
  | none => time? text == some []

/-- Cuts out a scalar. A date and a time with one space between them are one. -/
def cutScalar (input : List Char) : List Char × List Char :=
  let text := input.takeWhile (!endsScalar ·)
  let rest := input.dropWhile (!endsScalar ·)
  match date? text, rest with
  | some [], ' ' :: c :: more =>
    if Decimal.isDigit c then
      (text ++ ' ' :: (c :: more).takeWhile (!endsScalar ·), (c :: more).dropWhile (!endsScalar ·))
    else (text, rest)
  | _, _ => (text, rest)

/-- The item that a scalar without quotes denotes. -/
def scalar? (text : List Char) : Option Item :=
  if text = "true".toList then some (.boolean true)
  else if text = "false".toList then some (.boolean false)
  else
    match integer? text with
    | some n => some (.integer n)
    | none =>
      if isFloat text then some (.float (String.ofList text))
      else if isDateTime text then some (.dateTime (String.ofList text))
      else none

end ClusterConsole.Toml
