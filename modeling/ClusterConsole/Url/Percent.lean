import ClusterConsole.Text.Ascii
import ClusterConsole.Text.Utf8

/-! # Percent encoding

A part of an address writes a character that has a meaning of its own there as its bytes, each a percent
sign and two hexadecimal digits in upper case. Which characters have a meaning depends on the part.
Characters beyond ASCII are always written so. -/

namespace ClusterConsole.Percent

/-- A hexadecimal digit in upper case. -/
def hexDigit (n : Nat) : Char :=
  if n < 10 then Char.ofNat ('0'.toNat + n) else Char.ofNat ('A'.toNat + (n - 10))

/-- The escape of a byte. -/
def escape (b : UInt8) : List Char :=
  ['%', hexDigit (b.toNat / 16), hexDigit (b.toNat % 16)]

/-- How a character is written where those of `special` have a meaning. -/
def encodeChar (special : Char → Bool) (c : Char) : List Char :=
  if 0x7F ≤ c.toNat ∨ c.toNat < 0x20 ∨ special c then (Utf8.encodeChar c).flatMap escape else [c]

/-- A text as written where the characters of `special`, beside the controls, have a meaning. -/
def encode (special : Char → Bool) (text : List Char) : List Char :=
  text.flatMap (encodeChar special)

/-- The bytes that a written text stands for. A percent sign without two digits stands for itself. -/
def decode : List UInt8 → List UInt8
  | [] => []
  | [a] => [a]
  | [a, b] => [a, b]
  | a :: b :: c :: rest =>
    if a = Ascii.byte '%' then
      match Ascii.hexDigit? b, Ascii.hexDigit? c with
      | some h, some l => .ofNat (h * 16 + l) :: decode rest
      | _, _ => a :: decode (b :: c :: rest)
    else a :: decode (b :: c :: rest)

/-! ### The parts of an address -/

/-- What has a meaning in a fragment. -/
def inFragment (c : Char) : Bool :=
  c == ' ' || c == '"' || c == '<' || c == '>' || c.toNat == 0x60

/-- What has a meaning in a query of a web address. -/
def inQuery (c : Char) : Bool :=
  c == ' ' || c == '"' || c == '#' || c == '<' || c == '>' || c == '\''

/-- What has a meaning in a path. -/
def inPath (c : Char) : Bool :=
  inFragment c || c == '#' || c == '?' || c == '\x7b' || c == '\x7d'

/-- What has a meaning in user name and password. -/
def inUserinfo (c : Char) : Bool :=
  inPath c || c == '/' || c == ':' || c == ';' || c == '=' || c == '@' || c == '[' || c == '\\' ||
    c == ']' || c == '^' || c == '|'

/-- What has a meaning in one segment of a path that is given as a text of its own. -/
def inSegment (c : Char) : Bool :=
  inPath c || c == '/' || c == '%' || c == '\\'

end ClusterConsole.Percent
