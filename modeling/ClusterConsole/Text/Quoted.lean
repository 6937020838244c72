import ClusterConsole.Text.Hidden

/-! # Quoted texts

How a message quotes a text that came from outside. Quote and backslash get a backslash, four controls
have a letter, and a character that does not show is written as its number, so the quoted text is one
line and cannot be taken for anything else. -/

namespace ClusterConsole.Quoted

/-- The hexadecimal digits of a number, in lower case. -/
def hexadecimal (n : Nat) : List Char :=
  Nat.toDigits 16 n

/-- How a character is written inside quotes. -/
def encodeChar (c : Char) : List Char :=
  if c = '\x00' then ['\\', '0']
  else if c = '\t' then ['\\', 't']
  else if c = '\r' then ['\\', 'r']
  else if c = '\n' then ['\\', 'n']
  else if c = '"' then ['\\', '"']
  else if c = '\\' then ['\\', '\\']
  else if isHidden c then ['\\', 'u', '\x7b'] ++ hexadecimal c.toNat ++ ['\x7d']
  else [c]

/-- A text in quotes. -/
def encode (text : List Char) : List Char :=
  '"' :: (text.flatMap encodeChar ++ ['"'])

end ClusterConsole.Quoted

namespace ClusterConsole

/-- A string in quotes, as messages show it. -/
def quoted (text : String) : String :=
  String.ofList (Quoted.encode text.toList)

end ClusterConsole
