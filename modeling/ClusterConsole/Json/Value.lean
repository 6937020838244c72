import ClusterConsole.Json.Number
import ClusterConsole.Json.Skip
import ClusterConsole.Json.Text

/-! # Values in documents

A reader that expects a certain kind of value reads any other scalar too, to name it in the fault. Where
several kinds may stand, the value is first read whole; of arrays and objects only the form matters then,
because no choice in the records admits one. -/

namespace ClusterConsole.Json
open Ascii

/-- A value that has been read whole. -/
inductive Value where
  | null
  | boolean (value : Bool)
  | number (value : Number)
  | text (value : String)
  /-- An array or an object, with everything in it. -/
  | compound
deriving DecidableEq, Repr

/-- The fault of a value of another kind than expected, which begins `input`. A scalar is read first; an
    array or an object is left alone. -/
def wrongKind (expected : String) (input : Input) : Fault :=
  match input with
  | [] => .next .endInValue []
  | b :: rest =>
    if b = byte 'n' then after (word ['u', 'l', 'l'] rest) .null
    else if b = byte 't' then after (word ['r', 'u', 'e'] rest) (.boolean true)
    else if b = byte 'f' then after (word ['a', 'l', 's', 'e'] rest) (.boolean false)
    else if b = byte '-' ∨ isDigit b then
      match number input with
      | .ok (n, rest) => .here (.wrongKind n.found expected) rest
      | .error fault => fault
    else if b = byte '"' then
      match stringText rest with
      | .ok (s, rest) => .here (.wrongKind (.text s) expected) rest
      | .error fault => fault
    else if b = byte '[' then .here (.wrongKind .sequence expected) input
    else if b = byte '\x7b' then .here (.wrongKind .map expected) input
    else .next .expectedValue input
where
  after (read : Except Fault Input) (found : Found) : Fault :=
    match read with
    | .ok rest => .here (.wrongKind found expected) rest
    | .error fault => fault

/-- Reads a string. -/
def string (input : Input) : Except Fault (String × Input) :=
  match skipSpace input with
  | [] => .error (.next .endInValue [])
  | b :: rest =>
    if b = byte '"' then stringText rest else .error (wrongKind "a string" (b :: rest))

/-- Reads null as nothing, and anything else as a value. -/
def optional {α : Type} (value : Input → Except Fault (α × Input)) (input : Input) : Except Fault (Option α × Input) :=
  match skipSpace input with
  | [] => .error (.next .endInValue [])
  | b :: rest =>
    if b = byte 'n' then do
      let rest ← word ['u', 'l', 'l'] rest
      .ok (none, rest)
    else do
      let (x, rest) ← value (b :: rest)
      .ok (some x, rest)

/-- Reads the members of an object up to its closing brace. The name of each is read here; `member` reads
    the colon and the value. Every member but the first follows a comma: the bound `limit` is never met. -/
def membersWithin {σ : Type} (member : σ → String → Input → Except Fault (σ × Input)) :
    Nat → Bool → σ → Input → Except Fault (σ × Input)
  | 0, _, _, input => .error (.here .endInObject input)
  | limit + 1, first, s, input => do
    match ← nextMember first input with
    | none => .ok (s, input)
    | some rest =>
      let (name, rest) ← stringText rest
      let (s, rest) ← member s name rest
      membersWithin member limit false s rest

/-- Reads the members of an object up to its closing brace. -/
def members {σ : Type} (member : σ → String → Input → Except Fault (σ × Input)) (start : σ) (input : Input) :
    Except Fault (σ × Input) :=
  membersWithin member (input.length + 1) true start input

/-- Reads an array, at most `levels` levels deep. -/
def array {α : Type} (levels : Nat) (element : Nat → Input → Except Fault (α × Input)) (input : Input) :
    Except Fault (List α × Input) :=
  match skipSpace input with
  | [] => .error (.next .endInValue [])
  | b :: rest =>
    if b = byte '[' then
      deeper levels (b :: rest) fun levels =>
        enclosed (elements (element levels)) closeArray leaveArray (b :: rest)
    else .error (wrongKind "a sequence" (b :: rest))

/-- Reads an object, at most `levels` levels deep. -/
def object {σ : Type} (levels : Nat) (member : Nat → σ → String → Input → Except Fault (σ × Input))
    (start : σ) (input : Input) : Except Fault (σ × Input) :=
  match skipSpace input with
  | [] => .error (.next .endInValue [])
  | b :: rest =>
    if b = byte '\x7b' then
      deeper levels (b :: rest) fun levels =>
        enclosed (members (member levels) start) closeObject leaveObject (b :: rest)
    else .error (wrongKind "a map" (b :: rest))

/-- Reads a structure of the given name, at most `levels` levels deep: an object of its members or an array
    of its elements. -/
def record {α : Type} (name : String) (levels : Nat) (ofElements ofMembers : Nat → Input → Except Fault (α × Input))
    (input : Input) : Except Fault (α × Input) :=
  match skipSpace input with
  | [] => .error (.next .endInValue [])
  | b :: rest =>
    if b = byte '[' then
      deeper levels (b :: rest) fun levels => enclosed (ofElements levels) closeArray leaveArray (b :: rest)
    else if b = byte '\x7b' then
      deeper levels (b :: rest) fun levels => enclosed (ofMembers levels) closeObject leaveObject (b :: rest)
    else .error (wrongKind ("struct " ++ name) (b :: rest))

/-- Reads the next element of an array, or nothing at its end; `first` before any element has been read. -/
def element? {α : Type} (value : Input → Except Fault (α × Input)) (first : Bool) (input : Input) :
    Except Fault (Option α × Input) := do
  match ← nextElement first input with
  | none => .ok (none, input)
  | some rest =>
    let (x, rest) ← value rest
    .ok (some x, rest)

/-- Reads the value of a member that may be there once. -/
def once {α : Type} (name : String) (sofar : Option α) (value : Input → Except Fault (α × Input))
    (input : Input) : Except Fault (α × Input) :=
  match sofar with
  | some _ => .error (.pending (.duplicateMember name) input)
  | none => do value (← colon input)

/-- Reads any value whole, at most `levels` levels deep. -/
def value (levels : Nat) (input : Input) : Except Fault (Value × Input) :=
  match skipSpace input with
  | [] => .error (.next .endInValue [])
  | b :: rest =>
    if b = byte 'n' then do .ok (.null, ← word ['u', 'l', 'l'] rest)
    else if b = byte 't' then do .ok (.boolean true, ← word ['r', 'u', 'e'] rest)
    else if b = byte 'f' then do .ok (.boolean false, ← word ['a', 'l', 's', 'e'] rest)
    else if b = byte '-' ∨ isDigit b then do
      let (n, rest) ← number (b :: rest)
      .ok (.number n, rest)
    else if b = byte '"' then do
      let (s, rest) ← stringText rest
      .ok (.text s, rest)
    else if b = byte '[' then
      match levels with
      | 0 => .error (.next .nestedTooDeep (b :: rest))
      | levels + 1 => do
        let (_, rest) ← enclosed (elements (value levels)) closeArray leaveArray (b :: rest)
        .ok (.compound, rest)
    else if b = byte '\x7b' then
      match levels with
      | 0 => .error (.next .nestedTooDeep (b :: rest))
      | levels + 1 => do
        let (_, rest) ← enclosed (members (fun _ _ input => do
          let rest ← colon input
          let (_, rest) ← value levels rest
          .ok ((), rest)) ()) closeObject leaveObject (b :: rest)
        .ok (.compound, rest)
    else .error (.next .expectedValue (b :: rest))

end ClusterConsole.Json
