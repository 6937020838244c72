import ClusterConsole.Json.Value
import ClusterConsole.Json.Writer

/-! # Error reports

What an answer says when something went wrong: a code and a message. -/

namespace ClusterConsole
open Json

/-- The kind of an error. -/
inductive ErrorCode where
  | notFound
  | validation
  | registry
  | internal
deriving DecidableEq, Repr

namespace ErrorCode

/-- All codes. -/
def all : List ErrorCode := [.notFound, .validation, .registry, .internal]

/-- The name of a code in documents. -/
def name : ErrorCode → String
  | .notFound => "not_found"
  | .validation => "validation"
  | .registry => "upstream"
  | .internal => "internal"

/-- The code of a name. -/
def ofName? (name : String) : Option ErrorCode :=
  all.find? (·.name == name)

/-- The cause of refusing a name. -/
def unknown (name : String) : Cause :=
  .unknownName name (all.map ErrorCode.name)

/-- Reads null, which is all that may stand under a code. -/
def readNull (input : Input) : Except Fault Input :=
  match skipSpace input with
  | [] => .error (.next .endInValue [])
  | b :: rest => if b = Ascii.byte 'n' then word ['u', 'l', 'l'] rest else .error (wrongKind "unit" (b :: rest))

/-- Reads a code given as an object with the code as its only name, after the brace. -/
def readObject (input : Input) : Except Fault (ErrorCode × Input) :=
  match skipSpace input with
  | [] => .error (.next .endInValue [])
  | b :: rest =>
    if b = Ascii.byte '"' then do
      let (name, rest) ← stringText rest
      match ofName? name with
      | none => .error (.here (unknown name) rest)
      | some code =>
        let rest ← readNull (← colon rest)
        match skipSpace rest with
        | [] => .error (.here .endInObject [])
        | b :: rest =>
          if b = Ascii.byte '\x7d' then .ok (code, rest) else .error (.here .expectedValue (b :: rest))
    else .error (wrongKind "variant identifier" (b :: rest))

/-- Reads a code: its name, or an object with the name. -/
def read (levels : Nat) (input : Input) : Except Fault (ErrorCode × Input) :=
  match skipSpace input with
  | [] => .error (.next .endInValue [])
  | b :: rest =>
    if b = Ascii.byte '\x7b' then deeper levels (b :: rest) fun _ => readObject rest
    else if b = Ascii.byte '"' then do
      let (name, rest) ← stringText rest
      match ofName? name with
      | some code => .ok (code, rest)
      | none => .error (.pending (unknown name) rest)
    else .error (.next .expectedValue (b :: rest))

end ErrorCode

/-- What an answer says when something went wrong. -/
structure ErrorReport where
  code : ErrorCode
  message : String
deriving DecidableEq, Repr

namespace ErrorReport

/-- The members of a report that have been read so far. -/
structure Draft where
  code : Option ErrorCode := none
  message : Option String := none

/-- Reads a member. -/
def readMember (levels : Nat) (d : Draft) (name : String) (input : Input) : Except Fault (Draft × Input) := do
  if name = "code" then
    let (x, rest) ← once name d.code (ErrorCode.read levels) input
    .ok ({ d with code := some x }, rest)
  else if name = "message" then
    let (x, rest) ← once name d.message string input
    .ok ({ d with message := some x }, rest)
  else
    .ok (d, ← Skip.value (← colon input))

/-- Reads the members of a report, of which both have to be there. -/
def readMembers (levels : Nat) (input : Input) : Except Fault (ErrorReport × Input) := do
  let (d, rest) ← members (readMember levels) {} input
  match d.code, d.message with
  | some code, some message => .ok (⟨code, message⟩, rest)
  | none, _ => .error (.pending (.missingMember "code") rest)
  | _, none => .error (.pending (.missingMember "message") rest)

/-- Reads the elements of a report given as an array, of which both have to be there. -/
def readElements (levels : Nat) (input : Input) : Except Fault (ErrorReport × Input) := do
  let (code, rest) ← element? (ErrorCode.read levels) true input
  match code with
  | none => .error (.pending (.wrongLength 0 "struct ApiError with 2 elements") rest)
  | some code =>
    let (message, rest) ← element? string false rest
    match message with
    | none => .error (.pending (.wrongLength 1 "struct ApiError with 2 elements") rest)
    | some message => .ok (⟨code, message⟩, rest)

/-- Reads a report. -/
def read (levels : Nat) (input : Input) : Except Fault (ErrorReport × Input) :=
  record "ApiError" levels readElements readMembers input

/-- The report of a document. -/
def decode (document : Input) : Except Refusal ErrorReport :=
  Json.document (read nestingLimit) document

/-- A report as documents hold it. -/
def write (r : ErrorReport) : List Char :=
  writeObject [("code", writeString r.code.name), ("message", writeString r.message)]

end ErrorReport

end ClusterConsole
