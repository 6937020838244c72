import ClusterConsole.Number.Decimal

/-! # Writing documents

Documents are written without spaces. In a string a quote, a backslash and the controls are escaped, and
nothing else is. -/

namespace ClusterConsole.Json

/-- The digits of a unit below 256 in four hexadecimal places. -/
def unitDigits (n : Nat) : List Char :=
  ['0', '0', Nat.digitChar (n / 16), Nat.digitChar (n % 16)]

/-- How a character is written inside a string. -/
def escaped (c : Char) : List Char :=
  if c = '"' then ['\\', '"']
  else if c = '\\' then ['\\', '\\']
  else if c = '\x08' then ['\\', 'b']
  else if c = '\t' then ['\\', 't']
  else if c = '\n' then ['\\', 'n']
  else if c = '\x0c' then ['\\', 'f']
  else if c = '\r' then ['\\', 'r']
  else if c.toNat < 0x20 then '\\' :: 'u' :: unitDigits c.toNat
  else [c]

/-- A string as written. -/
def writeString (s : String) : List Char :=
  '"' :: (s.toList.flatMap escaped ++ ['"'])

/-- Texts with commas between them. -/
def commaSeparated (parts : List (List Char)) : List Char :=
  [','].intercalate parts

/-- An array of values that have been written. -/
def writeArray (values : List (List Char)) : List Char :=
  '[' :: (commaSeparated values ++ [']'])

/-- An object of members whose values have been written. -/
def writeObject (members : List (String × List Char)) : List Char :=
  '\x7b' :: (commaSeparated (members.map fun (name, value) => writeString name ++ ':' :: value) ++ ['\x7d'])

end ClusterConsole.Json
