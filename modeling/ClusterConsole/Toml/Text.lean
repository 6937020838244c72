import ClusterConsole.Url.Address

/-! # Blanks, comments, strings and keys of TOML -/

namespace ClusterConsole.Toml

/-! ### Blanks and comments -/

/-- A space or a tab. -/
def isSpace (c : Char) : Bool :=
  c == ' ' || c == '\t'

/-- What remains after spaces and tabs. -/
def skipSpace (input : List Char) : List Char :=
  input.dropWhile isSpace

/-- Whether a character may stand in a text as it is: everything but controls, of which the tab is
    admitted. -/
def isText (c : Char) : Bool :=
  c == '\t' || (0x20 ≤ c.toNat && c.toNat != 0x7F)

/-- What remains after a line break, if there is one. -/
def newline? : List Char → Option (List Char)
  | '\n' :: rest => some rest
  | '\r' :: '\n' :: rest => some rest
  | _ => none

/-- What remains after the comment, if one begins, up to the end of the line. -/
def skipComment (input : List Char) : List Char :=
  match input with
  | '#' :: rest => rest.dropWhile isText
  | _ => input

/-- What remains after the end of a line: blanks, a comment, and a line break or the end of the text. -/
def endLine (input : List Char) : Option (List Char) :=
  match skipComment (skipSpace input) with
  | [] => some []
  | rest => newline? rest

/-- What remains after blanks, line breaks and comments, inside an array; `comment` inside a comment. -/
def skipLines : Bool → List Char → Option (List Char)
  | _, [] => some []
  | false, c :: rest =>
    if isSpace c ∨ c = '\n' then skipLines false rest
    else if c = '\r' then if rest.head? = some '\n' then skipLines false rest else none
    else if c = '#' then skipLines true rest
    else some (c :: rest)
  | true, c :: rest =>
    if c = '\n' then skipLines false rest
    else if c = '\r' then if rest.head? = some '\n' then skipLines false rest else none
    else if isText c then skipLines true rest
    else none

/-! ### Strings -/

/-- The character numbered by a count of hexadecimal digits. -/
def numbered (count : Nat) (input : List Char) : Option (Char × List Char) := do
  let digits := input.take count
  if digits.length ≠ count then none
  let n ← ofRadix? 16 digits
  if n.isValidChar then some (Char.ofNat n, input.drop count) else none

/-- The character of an escape, after its backslash. -/
def escape : List Char → Option (Char × List Char)
  | 'b' :: rest => some ('\x08', rest)
  | 't' :: rest => some ('\t', rest)
  | 'n' :: rest => some ('\n', rest)
  | 'f' :: rest => some ('\x0c', rest)
  | 'r' :: rest => some ('\r', rest)
  | '"' :: rest => some ('"', rest)
  | '\\' :: rest => some ('\\', rest)
  | 'u' :: rest => numbered 4 rest
  | 'U' :: rest => numbered 8 rest
  | _ => none

/-- A string in double quotes, after the opening one. Each step reads a character at least, so the bound
    `limit` is never met. -/
def basicWithin : Nat → List Char → Option (List Char × List Char)
  | 0, _ => none
  | _ + 1, [] => none
  | limit + 1, c :: rest => do
    if c = '"' then some ([], rest)
    else if c = '\\' then
      let (x, rest) ← escape rest
      let (text, rest) ← basicWithin limit rest
      some (x :: text, rest)
    else if isText c then
      let (text, rest) ← basicWithin limit rest
      some (c :: text, rest)
    else none

/-- A string in double quotes, after the opening one. -/
def basic (input : List Char) : Option (List Char × List Char) :=
  basicWithin (input.length + 1) input

/-- A string in single quotes, after the opening one: its characters stand for themselves. -/
def literal (input : List Char) : Option (List Char × List Char) :=
  match input.dropWhile fun c => c != '\'' && isText c with
  | '\'' :: rest => some (input.takeWhile (fun c => c != '\'' && isText c), rest)
  | _ => none

/-- What stands before the closing quotes of a string of several lines when it ends in a run of quotes:
    the run holds the three closing ones and at most two that belong to the text. -/
def closing? (quote : Char) (input : List Char) : Option (List Char × List Char) :=
  let run := input.takeWhile (· == quote)
  if 3 ≤ run.length ∧ run.length ≤ 5 then some (run.drop 3, input.drop run.length) else none

/-- What remains after a backslash at the end of a line: the blanks and line breaks that follow, of which one
    is needed. -/
def joinLines? (input : List Char) : Option (List Char) := do
  let rest ← newline? (skipSpace input)
  go rest.length rest
where
  go : Nat → List Char → Option (List Char)
    | 0, rest => some rest
    | limit + 1, rest =>
      match newline? (skipSpace rest) with
      | some rest => go limit rest
      | none => some (skipSpace rest)

/-- A string of several lines, after the opening quotes and the line break that may follow them. Escapes
    count only between double quotes. -/
def linesWithin (quote : Char) : Nat → List Char → Option (List Char × List Char)
  | 0, _ => none
  | _ + 1, [] => none
  | limit + 1, c :: rest => do
    if c = quote then
      match closing? quote (c :: rest) with
      | some ended => some ended
      | none =>
        if (rest.take 2).all (· == quote) ∧ 2 ≤ rest.length then none
        else
          let (text, rest) ← linesWithin quote limit rest
          some (c :: text, rest)
    else if c = '\\' ∧ quote = '"' then
      match joinLines? rest with
      | some rest => linesWithin quote limit rest
      | none =>
        let (x, rest) ← escape rest
        let (text, rest) ← linesWithin quote limit rest
        some (x :: text, rest)
    else
      match newline? (c :: rest) with
      | some rest =>
        let (text, rest) ← linesWithin quote limit rest
        some ('\n' :: text, rest)
      | none =>
        if isText c then
          let (text, rest) ← linesWithin quote limit rest
          some (c :: text, rest)
        else none

/-- A string of several lines, after the opening quotes. -/
def lines (quote : Char) (input : List Char) : Option (List Char × List Char) :=
  let rest := (newline? input).getD input
  linesWithin quote (rest.length + 1) rest

/-- A string of any kind. -/
def string? : List Char → Option (List Char × List Char)
  | '"' :: '"' :: '"' :: rest => lines '"' rest
  | '"' :: rest => basic rest
  | '\'' :: '\'' :: '\'' :: rest => lines '\'' rest
  | '\'' :: rest => literal rest
  | _ => none

/-! ### Keys -/

/-- Whether a character may stand in a key without quotes. -/
def isBare (c : Char) : Bool :=
  c.isAlphanum || c == '_' || c == '-'

/-- A part of a key. -/
def keyPart (input : List Char) : Option (String × List Char) := do
  match input with
  | '"' :: rest =>
    let (text, rest) ← basic rest
    some (String.ofList text, rest)
  | '\'' :: rest =>
    let (text, rest) ← literal rest
    some (String.ofList text, rest)
  | _ =>
    let text := input.takeWhile isBare
    if text = [] then none else some (String.ofList text, input.dropWhile isBare)

/-- How many parts a key may have. -/
def keyLimit : Nat := 79

/-- A key: parts with points between them, and blanks around each; at most `limit` parts. -/
def keyWithin : Nat → List Char → Option (List String × List Char)
  | 0, _ => none
  | limit + 1, input => do
    let (part, rest) ← keyPart (skipSpace input)
    match skipSpace rest with
    | '.' :: rest =>
      let (parts, rest) ← keyWithin limit rest
      some (part :: parts, rest)
    | rest => some ([part], rest)

/-- A key. -/
def key (input : List Char) : Option (List String × List Char) :=
  keyWithin keyLimit input

end ClusterConsole.Toml
