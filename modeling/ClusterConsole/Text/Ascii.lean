/-! # ASCII on the wire

Documents and addresses are read as bytes. The characters that give them structure are all ASCII, where
a character is one byte of the same number. -/

namespace ClusterConsole.Ascii

/-- The byte of an ASCII character. -/
abbrev byte (c : Char) : UInt8 :=
  .ofNat c.toNat

/-- Whether a byte is a decimal digit. -/
def isDigit (b : UInt8) : Bool :=
  byte '0' ≤ b && b ≤ byte '9'

/-- The value of a decimal digit. -/
def digit? (b : UInt8) : Option Nat :=
  if isDigit b then some (b.toNat - '0'.toNat) else none

/-- The value of a hexadecimal digit in either case. -/
def hexDigit? (b : UInt8) : Option Nat :=
  if isDigit b then some (b.toNat - '0'.toNat)
  else if byte 'a' ≤ b ∧ b ≤ byte 'f' then some (b.toNat - 'a'.toNat + 10)
  else if byte 'A' ≤ b ∧ b ≤ byte 'F' then some (b.toNat - 'A'.toNat + 10)
  else none

/-- A text of ASCII characters as bytes. -/
def bytes (text : List Char) : List UInt8 :=
  text.map byte

end ClusterConsole.Ascii
