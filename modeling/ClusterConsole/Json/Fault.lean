import ClusterConsole.Number.Notation
import ClusterConsole.Text.Ascii
import ClusterConsole.Text.Quoted
import ClusterConsole.Time.Rfc3339

/-! # Why a document is refused

A fault is a cause and a place. Faults of form are placed where the reader stands. Faults of meaning, such
as a missing member, are found after the offending part has been read; those that concern a whole object
or array stay open until the reader leaves it, and are placed there. -/

namespace ClusterConsole.Json

/-- A document, or what remains of it, as bytes. -/
abbrev Input := List UInt8

/-- What a value turned out to be where another kind was expected. -/
inductive Found where
  | null
  | boolean (value : Bool)
  | integer (value : Int)
  | fraction (value : Binary64)
  | text (value : String)
  | sequence
  | map
deriving DecidableEq, Repr

/-- The number as shown, with a point also when there is no fraction. -/
def pointed (x : Binary64) : String :=
  let shown := x.display
  String.ofList (if shown.contains '.' then shown else shown ++ ['.', '0'])

/-- The value in words. -/
def Found.message : Found → String
  | .null => "null"
  | .boolean b => "boolean `" ++ (if b then "true" else "false") ++ "`"
  | .integer n => "integer `" ++ String.ofList (Decimal.integer n) ++ "`"
  | .fraction x => "floating point `" ++ pointed x ++ "`"
  | .text s => "string " ++ quoted s
  | .sequence => "sequence"
  | .map => "map"

/-- Why a document is refused. -/
inductive Cause where
  /-- The document ends where a value is expected or incomplete. -/
  | endInValue
  | endInList
  | endInObject
  | endInString
  | expectedColon
  | expectedListCommaOrEnd
  | expectedObjectCommaOrEnd
  /-- One of the words null, true and false is misspelt. -/
  | expectedWord
  | expectedValue
  | keyNotString
  | trailingComma
  | trailingCharacters
  | nestedTooDeep
  | invalidNumber
  | numberOutOfRange
  | controlCharacter
  | invalidEscape
  | unexpectedEndOfEscape
  | loneSurrogate
  | invalidUtf8
  /-- A value of another kind than expected. -/
  | wrongKind (found : Found) (expected : String)
  | missingMember (name : String)
  | duplicateMember (name : String)
  /-- An array with too few elements for what it stands for. -/
  | wrongLength (length : Nat) (expected : String)
  /-- A name that is none of those listed. -/
  | unknownName (name : String) (names : List String)
  /-- A value of none of the kinds that a choice admits. -/
  | noAlternative (choice : String)
  | createdOutOfRange (millis : Int)
  | invalidCreated (text : String) (fault : Rfc3339.Fault)
deriving DecidableEq, Repr

/-- Names in backquotes, with commas between them. -/
def nameList (names : List String) : String :=
  ", ".intercalate (names.map fun name => "`" ++ name ++ "`")

/-- The cause in words. -/
def Cause.message : Cause → String
  | .endInValue => "EOF while parsing a value"
  | .endInList => "EOF while parsing a list"
  | .endInObject => "EOF while parsing an object"
  | .endInString => "EOF while parsing a string"
  | .expectedColon => "expected `:`"
  | .expectedListCommaOrEnd => "expected `,` or `]`"
  | .expectedObjectCommaOrEnd => "expected `,` or `\x7d`"
  | .expectedWord => "expected ident"
  | .expectedValue => "expected value"
  | .keyNotString => "key must be a string"
  | .trailingComma => "trailing comma"
  | .trailingCharacters => "trailing characters"
  | .nestedTooDeep => "recursion limit exceeded"
  | .invalidNumber => "invalid number"
  | .numberOutOfRange => "number out of range"
  | .controlCharacter => "control character (\\u0000-\\u001F) found while parsing a string"
  | .invalidEscape => "invalid escape"
  | .unexpectedEndOfEscape => "unexpected end of hex escape"
  | .loneSurrogate => "lone leading surrogate in hex escape"
  | .invalidUtf8 => "invalid unicode code point"
  | .wrongKind found expected => "invalid type: " ++ found.message ++ ", expected " ++ expected
  | .missingMember name => "missing field `" ++ name ++ "`"
  | .duplicateMember name => "duplicate field `" ++ name ++ "`"
  | .wrongLength length expected =>
    "invalid length " ++ String.ofList (Decimal.digits length) ++ ", expected " ++ expected
  | .unknownName name names => "unknown variant `" ++ name ++ "`, expected one of " ++ nameList names
  | .noAlternative choice => "data did not match any variant of untagged enum " ++ choice
  | .createdOutOfRange millis => "created out of range: " ++ String.ofList (Decimal.integer millis)
  | .invalidCreated text fault => "invalid created timestamp " ++ quoted text ++ ": " ++ fault.message

/-- Where a fault lies. -/
inductive Place where
  /-- This many bytes before the end of the document. -/
  | settled (left : Nat)
  /-- Where the reader will stand when it leaves the object or array around `rest`. -/
  | pending (rest : Input)
deriving DecidableEq, Repr

/-- A cause and its place. -/
structure Fault where
  cause : Cause
  place : Place
deriving DecidableEq, Repr

namespace Fault

/-- A fault at the end of what has been read. -/
def here (cause : Cause) (rest : Input) : Fault :=
  ⟨cause, .settled rest.length⟩

/-- A fault of the next byte, which has been looked at but not read. -/
def next (cause : Cause) (rest : Input) : Fault :=
  ⟨cause, .settled (rest.length - 1)⟩

/-- A fault of the object or array that is being read. -/
def pending (cause : Cause) (rest : Input) : Fault :=
  ⟨cause, .pending rest⟩

/-- An open fault is placed where the reader stands after `leave`. -/
def settle (leave : Input → Input) (fault : Fault) : Fault :=
  match fault.place with
  | .settled _ => fault
  | .pending rest => ⟨fault.cause, .settled (leave rest).length⟩

/-- The line and the column of a fault: lines count from one, columns are the bytes read of the line. -/
def position (document : Input) (fault : Fault) : Nat × Nat :=
  let left := match fault.place with
    | .settled left => left
    | .pending rest => rest.length
  let read := document.take (document.length - left)
  (1 + read.count (Ascii.byte '\n'), (read.reverse.takeWhile (· != Ascii.byte '\n')).length)

end Fault

/-- Why a document is refused, and where: in which line and after how many bytes of it. -/
structure Refusal where
  cause : Cause
  line : Nat
  column : Nat
deriving DecidableEq, Repr

/-- The refusal of a document because of a fault in it. -/
def Fault.refusal (document : Input) (fault : Fault) : Refusal :=
  let (line, column) := fault.position document
  ⟨fault.cause, line, column⟩

/-- The refusal in words. -/
def Refusal.message (r : Refusal) : String :=
  r.cause.message ++ " at line " ++ String.ofList (Decimal.digits r.line) ++ " column " ++
    String.ofList (Decimal.digits r.column)

end ClusterConsole.Json
