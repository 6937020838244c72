import ClusterConsole.Json.Fault

/-! # Reading documents

A reader takes what remains of a document and gives a value and what remains after it, or the first fault.
This module holds the parts that every reader is made of: blanks, words, and the walk through the elements
of an array and the members of an object. -/

namespace ClusterConsole.Json
open Ascii

/-- Whether a byte may stand between the parts of a document. -/
def isSpace (b : UInt8) : Bool :=
  b == byte ' ' || b == byte '\n' || b == byte '\t' || b == byte '\r'

/-- What remains after spaces. -/
def skipSpace (input : Input) : Input :=
  input.dropWhile isSpace

/-- The rest of a word of which the first letter has been read. -/
def word (letters : List Char) (input : Input) : Except Fault Input :=
  match letters, input with
  | [], rest => .ok rest
  | _ :: _, [] => .error (.here .endInValue [])
  | c :: letters, b :: rest => if b = byte c then word letters rest else .error (.here .expectedWord rest)

/-- The colon between the name and the value of a member. -/
def colon (input : Input) : Except Fault Input :=
  match skipSpace input with
  | [] => .error (.next .endInObject [])
  | b :: rest => if b = byte ':' then .ok rest else .error (.next .expectedColon (b :: rest))

/-! ### Arrays -/

/-- What remains from the next element of an array on, or nothing at its end; `first` before any element
    has been read. The closing bracket is left. -/
def nextElement (first : Bool) (input : Input) : Except Fault (Option Input) :=
  match skipSpace input with
  | [] => .error (.next .endInList [])
  | b :: rest =>
    if b = byte ']' then .ok none
    else if first then .ok (some (b :: rest))
    else if b = byte ',' then
      match skipSpace rest with
      | [] => .error (.next .endInValue [])
      | c :: rest =>
        if c = byte ']' then .error (.next .trailingComma (c :: rest)) else .ok (some (c :: rest))
    else .error (.next .expectedListCommaOrEnd (b :: rest))

/-- Reads the elements of an array up to its closing bracket. Every element but the first follows a comma,
    so an array has at most as many elements as bytes: the bound `limit` is never met. -/
def elementsWithin {α : Type} (element : Input → Except Fault (α × Input)) :
    Nat → Bool → Input → Except Fault (List α × Input)
  | 0, _, input => .error (.here .endInList input)
  | limit + 1, first, input => do
    match ← nextElement first input with
    | none => .ok ([], input)
    | some rest =>
      let (x, rest) ← element rest
      let (xs, rest) ← elementsWithin element limit false rest
      .ok (x :: xs, rest)

/-- Reads the elements of an array up to its closing bracket. -/
def elements {α : Type} (element : Input → Except Fault (α × Input)) (input : Input) : Except Fault (List α × Input) :=
  elementsWithin element (input.length + 1) true input

/-- Reads the end of an array. -/
def closeArray (input : Input) : Except Fault Input :=
  match skipSpace input with
  | [] => .error (.next .endInList [])
  | b :: rest =>
    if b = byte ']' then .ok rest
    else if b = byte ',' then
      match skipSpace rest with
      | [] => .error (.next .trailingCharacters [])
      | c :: rest =>
        .error (.next (if c = byte ']' then .trailingComma else .trailingCharacters) (c :: rest))
    else .error (.next .trailingCharacters (b :: rest))

/-- Where the reader stands when it gives up an array: after the closing bracket or a comma, if one comes
    next. -/
def leaveArray (input : Input) : Input :=
  match skipSpace input with
  | [] => []
  | b :: rest =>
    if b = byte ']' then rest else if b = byte ',' then skipSpace rest else b :: rest

/-! ### Objects -/

/-- What remains from the next member of an object on, or nothing at its end; `first` before any member has
    been read. The closing brace is left; of a member the opening quote is gone. -/
def nextMember (first : Bool) (input : Input) : Except Fault (Option Input) :=
  match skipSpace input with
  | [] => .error (.next .endInObject [])
  | b :: rest =>
    if b = byte '\x7d' then .ok none
    else if first then
      if b = byte '"' then .ok (some rest) else .error (.next .keyNotString (b :: rest))
    else if b = byte ',' then
      match skipSpace rest with
      | [] => .error (.next .endInValue [])
      | c :: rest =>
        if c = byte '"' then .ok (some rest)
        else .error (.next (if c = byte '\x7d' then .trailingComma else .keyNotString) (c :: rest))
    else .error (.next .expectedObjectCommaOrEnd (b :: rest))

/-- Reads the end of an object. -/
def closeObject (input : Input) : Except Fault Input :=
  match skipSpace input with
  | [] => .error (.next .endInObject [])
  | b :: rest =>
    if b = byte '\x7d' then .ok rest
    else .error (.next (if b = byte ',' then .trailingComma else .trailingCharacters) (b :: rest))

/-- Where the reader stands when it gives up an object: after the closing brace, if it comes next. -/
def leaveObject (input : Input) : Input :=
  match skipSpace input with
  | [] => []
  | b :: rest => if b = byte '\x7d' then rest else b :: rest

/-! ### Nesting -/

/-- How many brackets and braces may be open at once. -/
def nestingLimit : Nat := 127

/-- Reads what stands between two brackets or braces, of which `input` begins with the opening one. -/
def enclosed {α : Type} (inside : Input → Except Fault (α × Input)) (close : Input → Except Fault Input)
    (leave : Input → Input) (input : Input) : Except Fault (α × Input) :=
  match inside (input.drop 1) with
  | .error fault => .error (fault.settle leave)
  | .ok (x, rest) =>
    match close rest with
    | .error fault => .error fault
    | .ok rest => .ok (x, rest)

/-- Goes one level further in, if one of `levels` is left. -/
def deeper {α : Type} (levels : Nat) (input : Input) (inside : Nat → Except Fault (α × Input)) :
    Except Fault (α × Input) :=
  match levels with
  | 0 => .error (.next .nestedTooDeep input)
  | levels + 1 => inside levels

/-- Reads one value and nothing after it but spaces. -/
def only {α : Type} (value : Input → Except Fault (α × Input)) (input : Input) : Except Fault α := do
  let (x, rest) ← value input
  match skipSpace rest with
  | [] => .ok x
  | b :: rest => .error (.next .trailingCharacters (b :: rest))

/-- Reads a whole document. -/
def document {α : Type} (value : Input → Except Fault (α × Input)) (input : Input) : Except Refusal α :=
  (only value input).mapError (Fault.refusal input)

end ClusterConsole.Json
