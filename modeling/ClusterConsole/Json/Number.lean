import ClusterConsole.Number.Decimal
import ClusterConsole.Json.Reader

/-! # Numbers in documents

A number without fraction and exponent that fits a word, signed or unsigned, is an integer; `-0` and all
others are binary floating point. Their digits are gathered into a word first. From the first digit on that
would overflow it all further digits are dropped, those before the point counted in the exponent. The word
is rounded to binary once, and multiplied or divided by a power of ten, which is rounded once more; so the
result can differ from the number nearest to the literal. -/

namespace ClusterConsole.Json
open Ascii

/-- A number as read. -/
inductive Number where
  /-- From `-2^63` to `2^64 - 1`. -/
  | integer (value : Int)
  | fraction (value : Binary64)
deriving DecidableEq, Repr

/-- The value as it is named in faults. -/
def Number.found : Number → Found
  | .integer n => .integer n
  | .fraction x => .fraction x

/-- The greatest number that a word holds. -/
def greatestWord : Nat := Word.limit - 1

/-- A power of ten in binary. -/
def powerOfTen (n : Nat) : Binary64 :=
  .ofNat (Nat.pow 10 n)

/-- The greatest power of ten that is a finite binary number. -/
def greatestPower : Nat := 308

/-- Divides by powers of ten until the exponent is one of a binary power of ten. -/
def scaleDown (x : Binary64) (exponent : Int) : Binary64 :=
  if exponent < -greatestPower then
    if x.magnitude = 0 then x else scaleDown (x.dividedBy (powerOfTen greatestPower)) (exponent + greatestPower)
  else x.dividedBy (powerOfTen exponent.natAbs)
termination_by (-exponent).toNat
decreasing_by simp only [greatestPower] at *; omega

/-- The binary number of a word times a power of ten; none when it is too great. -/
def scale? (significand : Nat) (exponent : Int) : Option Binary64 :=
  let x := Binary64.ofNat significand
  if exponent < 0 then some (scaleDown x exponent)
  else if exponent ≤ greatestPower then
    let y := x.times (powerOfTen exponent.toNat)
    if y.isFinite then some y else none
  else if x.magnitude = 0 then some x
  else none

/-- A sign and the size that follows it. -/
def withSign (negative : Bool) (x : Binary64) : Binary64 :=
  if negative then x.negate else x

/-- The number of the digits and the exponent read before `rest`. -/
def ofParts (negative : Bool) (significand : Nat) (exponent : Int) (rest : Input) : Except Fault (Number × Input) :=
  match scale? significand exponent with
  | some x => .ok (.fraction (withSign negative x), rest)
  | none => .error (.here .numberOutOfRange rest)

/-- What remains after digits. -/
def skipDigits (input : Input) : Input :=
  input.dropWhile isDigit

/-- The greatest exponent that is kept. One beyond it makes every number zero or too great. -/
def greatestExponent : Nat := 0x7FFFFFFF

/-- The digits of an exponent after the first one. -/
def exponentDigits (negative : Bool) (significand : Nat) (sofar : Int) (down : Bool) (exponent : Nat) :
    Input → Except Fault (Number × Input)
  | [] => ofParts negative significand (if down then sofar - exponent else sofar + exponent) []
  | b :: rest =>
    match digit? b with
    | none => ofParts negative significand (if down then sofar - exponent else sofar + exponent) (b :: rest)
    | some d =>
      if greatestExponent < exponent * 10 + d then
        if significand ≠ 0 ∧ !down then .error (.here .numberOutOfRange rest)
        else .ok (.fraction (withSign negative (.ofNat 0)), skipDigits rest)
      else exponentDigits negative significand sofar down (exponent * 10 + d) rest

/-- The exponent after its letter. `sofar` is what the digits already contribute. -/
def exponent (negative : Bool) (significand : Nat) (sofar : Int) (input : Input) : Except Fault (Number × Input) :=
  let (down, rest) := match input with
    | b :: rest => if b = byte '+' then (false, rest) else if b = byte '-' then (true, rest) else (false, input)
    | [] => (false, [])
  match rest with
  | [] => .error (.here .endInValue [])
  | b :: rest =>
    match digit? b with
    | some d => exponentDigits negative significand sofar down d rest
    | none => .error (.here .invalidNumber rest)

/-- What may follow the digits: an exponent. -/
def afterDigits (negative : Bool) (significand : Nat) (sofar : Int) (input : Input) : Except Fault (Number × Input) :=
  match input with
  | b :: rest =>
    if b = byte 'e' ∨ b = byte 'E' then exponent negative significand sofar rest
    else ofParts negative significand sofar input
  | [] => ofParts negative significand sofar []

/-- The digits after the point; `places` is minus the number of digits before this one that count. -/
def decimals (negative : Bool) (significand : Nat) (before places : Int) : Input → Except Fault (Number × Input)
  | [] =>
    if places = 0 then .error (.next .endInValue []) else afterDigits negative significand (before + places) []
  | b :: rest =>
    match digit? b with
    | some d =>
      if greatestWord < significand * 10 + d then
        afterDigits negative significand (before + places) (skipDigits rest)
      else decimals negative (significand * 10 + d) before (places - 1) rest
    | none =>
      if places = 0 then .error (.next .invalidNumber (b :: rest))
      else afterDigits negative significand (before + places) (b :: rest)

/-- The digits before the point that are dropped; `dropped` of them have been. -/
def longInteger (negative : Bool) (significand : Nat) (dropped : Int) : Input → Except Fault (Number × Input)
  | [] => ofParts negative significand dropped []
  | b :: rest =>
    if isDigit b then longInteger negative significand (dropped + 1) rest
    else if b = byte '.' then decimals negative significand dropped 0 rest
    else afterDigits negative significand dropped (b :: rest)

/-- A number whose integer part is complete and was not too long. -/
def afterInteger (negative : Bool) (significand : Nat) (input : Input) : Except Fault (Number × Input) :=
  match input with
  | b :: rest =>
    if b = byte '.' then decimals negative significand 0 0 rest
    else if b = byte 'e' ∨ b = byte 'E' then exponent negative significand 0 rest
    else whole input
  | [] => whole []
where
  whole (rest : Input) : Except Fault (Number × Input) :=
    if !negative then .ok (.integer significand, rest)
    else if 0 < significand ∧ significand ≤ Word.signedLimit then .ok (.integer (-significand), rest)
    else .ok (.fraction (Binary64.ofNat significand).negate, rest)

/-- The digits of the integer part after the first. -/
def integerDigits (negative : Bool) (significand : Nat) : Input → Except Fault (Number × Input)
  | [] => afterInteger negative significand []
  | b :: rest =>
    match digit? b with
    | some d =>
      if greatestWord < significand * 10 + d then longInteger negative significand 1 rest
      else integerDigits negative (significand * 10 + d) rest
    | none => afterInteger negative significand (b :: rest)

/-- A number after its sign. Only a number below one begins with a zero. -/
def unsigned (negative : Bool) (input : Input) : Except Fault (Number × Input) :=
  match input with
  | [] => .error (.here .endInValue [])
  | b :: rest =>
    if b = byte '0' then
      if (rest.head?.map isDigit).getD false then .error (.next .invalidNumber rest)
      else afterInteger negative 0 rest
    else
      match digit? b with
      | some d => integerDigits negative d rest
      | none => .error (.here .invalidNumber rest)

/-- The number at the front of a document, which begins with a minus or a digit. -/
def number (input : Input) : Except Fault (Number × Input) :=
  match input with
  | [] => unsigned false []
  | b :: rest => if b = byte '-' then unsigned true rest else unsigned false input

end ClusterConsole.Json
