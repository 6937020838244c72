import ClusterConsole.Http.Exchange

/-! # Messages

A request and an answer as bytes. A message has a head of lines and a body behind an empty line. The body of an
answer ends where a field of the head says, or comes in chunks, or else ends with the connection. -/

namespace ClusterConsole.Http

/-! ### Requests -/

/-- Host and port, as a request names them. -/
def hostField (u : Url) : List Char :=
  u.host.text ++ u.portText

/-- A request as text. -/
def Request.head (r : Request) : String :=
  "GET " ++ r.target ++ " HTTP/1.1\r\n" ++
  "host: " ++ String.ofList (hostField r.url) ++ "\r\n" ++
  "accept: */*\r\n" ++
  (match r.authorization with
    | none => ""
    | some value => "authorization: " ++ value ++ "\r\n") ++
  "connection: close\r\n\r\n"

/-! ### Answers -/

/-- A line and what comes behind it. -/
def line? : List UInt8 → Option (List UInt8 × List UInt8)
  | [] => none
  | 13 :: 10 :: rest => some ([], rest)
  | byte :: rest => (line? rest).map fun (line, rest) => (byte :: line, rest)

/-- What comes behind a line is shorter than the text. -/
theorem length_of_line? {text line rest : List UInt8} (h : line? text = some (line, rest)) :
    rest.length < text.length := by
  fun_induction line? text generalizing line rest with
  | case1 => simp at h
  | case2 tail =>
    obtain ⟨-, rfl⟩ : [] = line ∧ tail = rest := by simpa using h
    simp only [List.length_cons]
    omega
  | case3 byte tail _ ih =>
    obtain ⟨⟨before, after⟩, found, same⟩ := Option.map_eq_some_iff.1 h
    obtain ⟨-, rfl⟩ := Prod.mk.injEq .. ▸ same
    have := ih found
    simp only [List.length_cons]
    omega

/-- The lines up to the first empty one, and what comes behind that. -/
def lines? (text : List UInt8) : Option (List (List UInt8) × List UInt8) :=
  match h : line? text with
  | none => none
  | some ([], rest) => some ([], rest)
  | some (line, rest) =>
    have := length_of_line? h
    (lines? rest).map fun (lines, rest) => (line :: lines, rest)
termination_by text.length

/-- The digits of a number at the front of a text. -/
def status? (line : List Char) : Option Nat :=
  match line.dropWhile (· != ' ') with
  | ' ' :: rest => Decimal.natural? (rest.takeWhile (· != ' '))
  | _ => none

/-- The name, in lower case, and the value of a line of the head. -/
def field? (line : List Char) : Option (List Char × List Char) :=
  match line.dropWhile (· != ':') with
  | ':' :: value => some ((line.takeWhile (· != ':')).map Char.toLower, trimmed value)
  | _ => none
where
  trimmed (text : List Char) : List Char :=
    let isBlank := fun c => c == ' ' || c == '\t'
    ((text.dropWhile isBlank).reverse.dropWhile isBlank).reverse

/-- The size that the line before a chunk tells. -/
def chunkSize? (line : List Char) : Option Nat :=
  let digits := line.takeWhile fun c => (hexValue? c).isSome
  if digits = [] then none else ofRadix? 16 digits

/-- The chunks of a body put together, and whether the last one came. -/
def unchunked (text : List UInt8) : List UInt8 × Bool :=
  match h : line? text with
  | none => ([], false)
  | some (line, rest) =>
    match (Utf8.decode? line).bind chunkSize? with
    | none => ([], false)
    | some 0 => ([], true)
    | some size =>
      have := length_of_line? h
      match rest.drop size with
      | 13 :: 10 :: _ =>
        let (body, complete) := unchunked (rest.drop (size + 2))
        (rest.take size ++ body, complete)
      | _ => (rest.take size, false)
termination_by text.length

/-- The body of an answer and whether it is complete. -/
def bodyOf (status : Nat) (fields : List (List Char × List Char)) (text : List UInt8) : List UInt8 × Bool :=
  if status = 204 ∨ status = 304 then ([], true)
  else if fields.lookup "transfer-encoding".toList = some "chunked".toList then unchunked text
  else
    match (fields.lookup "content-length".toList).map Decimal.natural? with
    | none => (text, true)
    | some none => ([], false)
    | some (some length) => (text.take length, length ≤ text.length)

/-- The answer that bytes are. -/
def Response.ofBytes? (text : List UInt8) : Option Response := do
  let (head, rest) ← lines? text
  let statusLine :: fieldLines ← head.mapM Utf8.decode? | none
  let status ← status? statusLine
  let fields := fieldLines.filterMap field?
  let (body, complete) := bodyOf status fields rest
  some { status, body, complete, location := (fields.lookup "location".toList).map String.ofList }

/-- What came of a request that bytes came back for. -/
def Exchange.ofBytes (text : List UInt8) : Exchange :=
  match Response.ofBytes? text with
  | none => .failed
  | some response => .answered response

end ClusterConsole.Http
