/-! # Whole numbers in decimal

The digits of a whole number, and reading them back. A word of 64 bits holds those below a bound. -/

namespace ClusterConsole

namespace Word

/-- One more than the greatest word: 2^64. -/
def limit : Nat := 0x10000000000000000

/-- One more than the greatest word with a sign: 2^63. The least one is minus this number. -/
def signedLimit : Nat := 0x8000000000000000

end Word

namespace Decimal

/-- The digits of a number, without leading zeros. -/
def digits (n : Nat) : List Char :=
  Nat.toDigits 10 n

/-- The decimal text of an integer: its digits, after a minus when it is negative. -/
def integer (n : Int) : List Char :=
  if n < 0 then '-' :: digits n.natAbs else digits n.natAbs

/-- A number in at least `width` digits. -/
def padded (width n : Nat) : List Char :=
  let ds := digits n
  List.replicate (width - ds.length) '0' ++ ds

/-- Whether a character is one of the ten digits. -/
def isDigit (c : Char) : Bool :=
  '0' ≤ c && c ≤ '9'

/-- The value of a digit. -/
def digitValue (c : Char) : Nat :=
  c.toNat - '0'.toNat

/-- The number that a list of digits denotes. -/
def ofDigits (ds : List Char) : Nat :=
  ds.foldl (fun n c => 10 * n + digitValue c) 0

/-- The number that a text of digits denotes; no digits at all denote none. -/
def natural? (text : List Char) : Option Nat :=
  if text ≠ [] ∧ text.all isDigit then some (ofDigits text) else none

/-- The 64-bit number that a text denotes: digits after an optional plus, at most 2^64 - 1. -/
def word? (text : List Char) : Option UInt64 := do
  let n ← natural? (match text with | '+' :: ds => ds | ds => ds)
  if n < Word.limit then some (.ofNat n) else none

end Decimal

end ClusterConsole
