import ClusterConsole.Json.Reader

/-! # Values that nobody wants

The value of an unknown member is read for its form only. Strings and numbers may hold what no text or
number could, and brackets may be nested to any depth: the open ones are kept in a list. -/

namespace ClusterConsole.Json.Skip
open Ascii

/-- An array or an object that has been opened. -/
inductive Frame where
  | array
  | object
deriving DecidableEq, Repr

/-- What remains after an escape, after its backslash. -/
def escape (input : Input) : Except Fault Input :=
  match input with
  | [] => .error (.here .endInString [])
  | b :: rest =>
    if b = byte '"' ∨ b = byte '\\' ∨ b = byte '/' ∨ b = byte 'b' ∨ b = byte 'f' ∨ b = byte 'n' ∨
        b = byte 'r' ∨ b = byte 't' then .ok rest
    else if b = byte 'u' then
      match rest with
      | a :: b :: c :: d :: rest =>
        if (hexDigit? a).isSome ∧ (hexDigit? b).isSome ∧ (hexDigit? c).isSome ∧ (hexDigit? d).isSome then
          .ok rest
        else .error (.here .invalidEscape rest)
      | _ => .error (.here .endInString [])
    else .error (.here .invalidEscape rest)

/-- What remains after a string, after its opening quote. Each step reads a byte at least, so the bound
    `limit` is never met. -/
def stringWithin : Nat → Input → Except Fault Input
  | 0, _ => .error (.here .endInString [])
  | _ + 1, [] => .error (.here .endInString [])
  | limit + 1, b :: rest =>
    if b = byte '"' then .ok rest
    else if b = byte '\\' then do
      let rest ← escape rest
      stringWithin limit rest
    else if b < 0x20 then .error (.here .controlCharacter (b :: rest))
    else stringWithin limit rest

/-- What remains after a string, after its opening quote. -/
def string (input : Input) : Except Fault Input :=
  stringWithin (input.length + 1) input

/-- What remains after an exponent, after its letter. -/
def exponent (input : Input) : Except Fault Input :=
  let rest := match input with
    | b :: rest => if b = byte '+' ∨ b = byte '-' then rest else input
    | [] => []
  match rest with
  | [] => .error (.here .invalidNumber [])
  | b :: rest => if isDigit b then .ok (rest.dropWhile isDigit) else .error (.here .invalidNumber rest)

/-- What remains after an exponent, if there is one. -/
def exponent? (input : Input) : Except Fault Input :=
  match input with
  | b :: rest => if b = byte 'e' ∨ b = byte 'E' then exponent rest else .ok input
  | [] => .ok []

/-- What remains after the decimals, after the point. -/
def decimals (input : Input) : Except Fault Input :=
  if (input.head?.map isDigit).getD false then exponent? (input.dropWhile isDigit)
  else .error (.next .invalidNumber input)

/-- What remains after what may follow the integer part of a number. -/
def afterInteger (input : Input) : Except Fault Input :=
  match input with
  | b :: rest => if b = byte '.' then decimals rest else exponent? input
  | [] => .ok []

/-- What remains after a number, after its sign. -/
def unsigned (input : Input) : Except Fault Input :=
  match input with
  | [] => .error (.here .invalidNumber [])
  | b :: rest =>
    if b = byte '0' then
      if (rest.head?.map isDigit).getD false then .error (.next .invalidNumber rest) else afterInteger rest
    else if isDigit b then afterInteger (rest.dropWhile isDigit)
    else .error (.here .invalidNumber rest)

/-- The front of a value: a whole scalar, or the opening of an array or object. -/
def front (input : Input) : Except Fault (Option Frame × Input) :=
  match skipSpace input with
  | [] => .error (.next .endInValue [])
  | b :: rest =>
    if b = byte 'n' then do .ok (none, ← word ['u', 'l', 'l'] rest)
    else if b = byte 't' then do .ok (none, ← word ['r', 'u', 'e'] rest)
    else if b = byte 'f' then do .ok (none, ← word ['a', 'l', 's', 'e'] rest)
    else if b = byte '-' then do .ok (none, ← unsigned rest)
    else if isDigit b then do .ok (none, ← unsigned (b :: rest))
    else if b = byte '"' then do .ok (none, ← string rest)
    else if b = byte '[' then .ok (some .array, rest)
    else if b = byte '\x7b' then .ok (some .object, rest)
    else .error (.next .expectedValue (b :: rest))

/-- What remains after the name of a member and its colon. -/
def name (input : Input) : Except Fault Input :=
  match skipSpace input with
  | [] => .error (.next .endInObject [])
  | b :: rest =>
    if b = byte '"' then do colon (← string rest) else .error (.next .keyNotString (b :: rest))

/-- Goes on to the next value inside the open frames, which may close some of them. `complete` says that
    the innermost frame has just got a value. Gives nothing when all frames are closed. -/
def advance : Bool → List Frame → Input → Except Fault (Option (List Frame) × Input)
  | _, [], input => .ok (none, input)
  | complete, frame :: frames, input =>
    match skipSpace input with
    | [] => .error (.next (match frame with | .array => .endInList | .object => .endInObject) [])
    | b :: rest =>
      if b = (match frame with | .array => byte ']' | .object => byte '\x7d') then advance true frames rest
      else if complete then
        if b = byte ',' then enter frame frames rest
        else
          .error (.next (match frame with
            | .array => .expectedListCommaOrEnd
            | .object => .expectedObjectCommaOrEnd) (b :: rest))
      else enter frame frames (b :: rest)
where
  enter (frame : Frame) (frames : List Frame) (input : Input) : Except Fault (Option (List Frame) × Input) :=
    match frame with
    | .array => .ok (some (.array :: frames), input)
    | .object => do .ok (some (.object :: frames), ← name input)

/-- What remains after a value inside the open frames and all that closes them. Each step reads a byte at
    least, so the bound `limit` is never met. -/
def valueWithin : Nat → List Frame → Input → Except Fault Input
  | 0, _, input => .error (.here .endInValue input)
  | limit + 1, frames, input => do
    let (opened, rest) ← front input
    let (frames, rest) ← match opened with
      | some frame => advance false (frame :: frames) rest
      | none => advance true frames rest
    match frames with
    | none => .ok rest
    | some frames => valueWithin limit frames rest

/-- What remains after a value. -/
def value (input : Input) : Except Fault Input :=
  valueWithin (input.length + 1) [] input

end ClusterConsole.Json.Skip
