import ClusterConsole.Json.Reader

/-! # Strings in documents

A string stands between quotes. Its bytes stand for themselves; a backslash begins an escape, of which one
kind gives the number of a UTF-16 unit. Units above the first plane come as pairs. What results has to be
UTF-8. -/

namespace ClusterConsole.Json
open Ascii

/-- Four hexadecimal digits. They are read before they are looked at. -/
def hexUnit (input : Input) : Except Fault (Nat × Input) :=
  match input with
  | a :: b :: c :: d :: rest =>
    match hexDigit? a, hexDigit? b, hexDigit? c, hexDigit? d with
    | some a, some b, some c, some d => .ok (((a * 16 + b) * 16 + c) * 16 + d, rest)
    | _, _, _, _ => .error (.here .invalidEscape rest)
  | _ => .error (.here .endInString [])

/-- The next byte of an escape, which has to be `c`. -/
def escapeByte (c : Char) (input : Input) : Except Fault Input :=
  match input with
  | [] => .error (.here .endInString [])
  | b :: rest => if b = byte c then .ok rest else .error (.here .unexpectedEndOfEscape rest)

/-- The second half of a pair of units. -/
def trailingUnit (lead : Nat) (input : Input) : Except Fault (Char × Input) := do
  let rest ← escapeByte '\\' input
  let rest ← escapeByte 'u' rest
  let (unit, rest) ← hexUnit rest
  if unit < 0xDC00 ∨ 0xDFFF < unit then .error (.here .loneSurrogate rest)
  else .ok (Char.ofNat ((lead - 0xD800) * 0x400 + (unit - 0xDC00) + 0x10000), rest)

/-- The character of an escape of one or two units, after the first `\u`. -/
def unicodeEscape (input : Input) : Except Fault (Char × Input) := do
  let (unit, rest) ← hexUnit input
  if 0xDC00 ≤ unit ∧ unit ≤ 0xDFFF then .error (.here .loneSurrogate rest)
  else if 0xD800 ≤ unit ∧ unit ≤ 0xDBFF then trailingUnit unit rest
  else .ok (Char.ofNat unit, rest)

/-- The character that a letter after a backslash stands for. -/
def shortEscape? (b : UInt8) : Option Char :=
  if b = byte '"' then some '"'
  else if b = byte '\\' then some '\\'
  else if b = byte '/' then some '/'
  else if b = byte 'b' then some '\x08'
  else if b = byte 'f' then some '\x0c'
  else if b = byte 'n' then some '\n'
  else if b = byte 'r' then some '\r'
  else if b = byte 't' then some '\t'
  else none

/-- The character of an escape, after its backslash. -/
def escape (input : Input) : Except Fault (Char × Input) :=
  match input with
  | [] => .error (.here .endInString [])
  | b :: rest =>
    match shortEscape? b with
    | some c => .ok (c, rest)
    | none => if b = byte 'u' then unicodeEscape rest else .error (.here .invalidEscape rest)

/-- The bytes that a string stands for, after its opening quote; the closing one is read. Each step reads a
    byte at least, so the bound `limit` is never met. -/
def stringBytesWithin : Nat → Input → Except Fault (List UInt8 × Input)
  | 0, _ => .error (.here .endInString [])
  | _ + 1, [] => .error (.here .endInString [])
  | limit + 1, b :: rest =>
    if b = byte '"' then .ok ([], rest)
    else if b = byte '\\' then do
      let (c, rest) ← escape rest
      let (bytes, rest) ← stringBytesWithin limit rest
      .ok (Utf8.encodeChar c ++ bytes, rest)
    else if b < 0x20 then .error (.here .controlCharacter rest)
    else do
      let (bytes, rest) ← stringBytesWithin limit rest
      .ok (b :: bytes, rest)

/-- The text of a string, after its opening quote. When it is not UTF-8, the fault lies as far before the
    closing quote as there are bytes from the first that is wrong on. -/
def stringText (input : Input) : Except Fault (String × Input) := do
  let (bytes, rest) ← stringBytesWithin (input.length + 1) input
  match Utf8.decodePrefix bytes with
  | (text, []) => .ok (String.ofList text, rest)
  | (_, wrong) => .error ⟨.invalidUtf8, .settled (rest.length + wrong.length)⟩

end ClusterConsole.Json
