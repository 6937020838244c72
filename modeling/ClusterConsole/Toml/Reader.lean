import ClusterConsole.Toml.Scalar
import ClusterConsole.Toml.Text

/-! # Reading TOML

A document is read line by line: a key with its value, the header of a table, or nothing. A document with a
fault anywhere is no document; which fault it is, nobody asks. -/

namespace ClusterConsole.Toml

/-- How deep arrays and inline tables may be nested. -/
def nestingLimit : Nat := 79

/-- A key and the item under it. -/
def keyValue {α : Type} (item : List Char → Option (α × List Char)) (input : List Char) :
    Option ((List String × String × α) × List Char) := do
  let (parts, rest) ← key input
  let rest ← after? '=' rest
  let (value, rest) ← item (skipSpace rest)
  some ((parts.dropLast, ← parts.getLast?, value), rest)

/-- The items of an array, after its bracket or a comma. Each step reads a character at least, so the bound
    `limit` is never met. -/
def arrayWithin {α : Type} (item : List Char → Option (α × List Char)) : Nat → List Char → Option (List α × List Char)
  | 0, _ => none
  | limit + 1, input => do
    match ← skipLines false input with
    | ']' :: rest => some ([], rest)
    | rest =>
      let (x, rest) ← item rest
      match ← skipLines false rest with
      | ',' :: rest =>
        let (xs, rest) ← arrayWithin item limit rest
        some (x :: xs, rest)
      | ']' :: rest => some ([x], rest)
      | _ => none

/-- The entries of an inline table that is not empty, after its brace or a comma. Each step reads a character
    at least, so the bound `limit` is never met. -/
def inlineWithin (item : List Char → Option (Item × List Char)) :
    Nat → Entries → List Char → Option (Entries × List Char)
  | 0, _, _ => none
  | limit + 1, entries, input => do
    let ((path, key, value), rest) ← keyValue item input
    let entries ← entries.set path key value
    match skipSpace rest with
    | ',' :: rest => inlineWithin item limit entries rest
    | '\x7d' :: rest => some (entries, rest)
    | _ => none

/-- An inline table, after its brace. -/
def inline (item : List Char → Option (Item × List Char)) (input : List Char) : Option (Entries × List Char) :=
  match skipSpace input with
  | '\x7d' :: rest => some ([], rest)
  | rest => inlineWithin item (rest.length + 1) [] rest

/-- An item, at most `levels` levels deep. -/
def item (levels : Nat) (input : List Char) : Option (Item × List Char) :=
  match input with
  | [] => none
  | c :: rest =>
    if c = '"' ∨ c = '\'' then do
      let (text, rest) ← string? input
      some (.string (String.ofList text), rest)
    else if c = '[' then
      match levels with
      | 0 => none
      | levels + 1 => do
        let (items, rest) ← arrayWithin (item levels) (rest.length + 1) rest
        some (.array items, rest)
    else if c = '\x7b' then
      match levels with
      | 0 => none
      | levels + 1 => do
        let (entries, rest) ← inline (item levels) rest
        some (.inline entries, rest)
    else do
      let (text, rest) := cutScalar input
      some (← scalar? text, rest)

/-- What has been read of a document: its entries and the header that the next keys belong to. -/
structure Progress where
  entries : Entries := []
  header : List String := []

/-- A header of a table, after its first bracket. -/
def header (p : Progress) (input : List Char) : Option (Progress × List Char) := do
  match input with
  | '[' :: rest =>
    let (parts, rest) ← key rest
    let rest ← after? ']' (← after? ']' rest)
    some (⟨← p.entries.append parts.dropLast (← parts.getLast?), parts⟩, rest)
  | rest =>
    let (parts, rest) ← key rest
    let rest ← after? ']' rest
    some (⟨← p.entries.define parts.dropLast (← parts.getLast?), parts⟩, rest)

/-- One line, up to what may follow it. -/
def line (p : Progress) (input : List Char) : Option (Progress × List Char) := do
  match input with
  | [] => some (p, [])
  | '#' :: _ => some (p, input)
  | '\n' :: _ => some (p, input)
  | '\r' :: _ => some (p, input)
  | '[' :: rest => header p rest
  | _ =>
    let ((path, key, value), rest) ← keyValue (item nestingLimit) input
    some ({ p with entries := ← p.entries.setUnder p.header path key value }, rest)

/-- The lines of a document. Each step reads a character at least, so the bound `limit` is never met. -/
def linesWithinDocument : Nat → Progress → List Char → Option Entries
  | 0, _, _ => none
  | limit + 1, p, input => do
    match skipSpace input with
    | [] => some p.entries
    | rest =>
      let (p, rest) ← line p rest
      linesWithinDocument limit p (← endLine rest)

/-- The entries of a document. A byte order mark in front of it is ignored. -/
def parse (text : String) : Option Entries :=
  let input := match text.toList with
    | '\ufeff' :: rest => rest
    | cs => cs
  linesWithinDocument (input.length + 1) {} input

end ClusterConsole.Toml
