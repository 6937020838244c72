import ClusterConsole.Number.Decimal
import ClusterConsole.Text.Ascii
import ClusterConsole.Url.Fault

/-! # Numbers of hosts

An address of version 4 is one to four numbers with points between them, each in decimal, octal or
hexadecimal notation; the last fills all bytes that the others leave. An address of version 6 is eight
pieces of 16 bits in hexadecimal with colons between them, the last two possibly as an address of version
4. Two colons stand for as many zero pieces as are missing. -/

namespace ClusterConsole

/-- The value of a hexadecimal digit. -/
def hexValue? (c : Char) : Option Nat :=
  if '0' ≤ c ∧ c ≤ '9' then some (c.toNat - '0'.toNat)
  else if 'a' ≤ c ∧ c ≤ 'f' then some (c.toNat - 'a'.toNat + 10)
  else if 'A' ≤ c ∧ c ≤ 'F' then some (c.toNat - 'A'.toNat + 10)
  else none

/-- The number that digits below `radix` denote. -/
def ofRadix? (radix : Nat) (digits : List Char) : Option Nat :=
  digits.foldlM (fun n c => do
    let d ← hexValue? c
    if d < radix then some (n * radix + d) else none) 0

namespace Ipv4

/-- A number of an address. A leading zero makes it octal, `0x` hexadecimal, and no more digits zero. -/
def number? : List Char → Option Nat
  | [] => none
  | '0' :: 'x' :: digits => ofRadix? 16 digits
  | '0' :: 'X' :: digits => ofRadix? 16 digits
  | ['0'] => some 0
  | '0' :: digits => ofRadix? 8 digits
  | digits => ofRadix? 10 digits

/-- The parts between the points. -/
def parts (text : List Char) : List (List Char) :=
  text.splitOn '.'

/-- The parts without an empty one at the end. -/
def trimmedParts (text : List Char) : List (List Char) :=
  let ps := parts text
  if ps.getLast? = some [] then ps.dropLast else ps

/-- Whether a name of a host has to be an address of version 4: its last part is a number. -/
def endsInNumber (text : List Char) : Bool :=
  match (trimmedParts text).getLast? with
  | none => false
  | some last => (last ≠ [] && last.all Decimal.isDigit) || (number? last).isSome

/-- The address whose bytes, the highest first, are `leading`, and whose remaining bytes hold `last`. -/
def assemble? (leading : List Nat) (last : Nat) : Option Nat :=
  let room := Nat.pow 256 (4 - leading.length)
  if leading.all (· < 256) ∧ last < room then
    some (leading.foldl (fun n byte => n * 256 + byte) 0 * room + last)
  else none

/-- The address that a text denotes. -/
def parse? (text : List Char) : Option Nat := do
  let ps := trimmedParts text
  if 4 < ps.length then none
  let numbers ← ps.mapM number?
  assemble? numbers.dropLast (← numbers.getLast?)

/-- An address in its usual form: four decimal numbers. -/
def text (address : Nat) : List Char :=
  ['.'].intercalate
    ([address / 0x1000000 % 256, address / 0x10000 % 256, address / 0x100 % 256, address % 256].map Decimal.digits)

end Ipv4

namespace Ipv6

/-- A byte of an embedded address of version 4: decimal, without leading zeros. -/
def byte? (digits : List Char) : Option Nat := do
  let n ← Decimal.natural? digits
  if n < 256 ∧ Decimal.digits n = digits then some n else none

/-- The two pieces of an embedded address of version 4. -/
def embedded? (text : List Char) : Option (List Nat) := do
  match ← (text.splitOn '.').mapM byte? with
  | [a, b, c, d] => some [a * 256 + b, c * 256 + d]
  | _ => none

/-- The digits of a piece, at most four. -/
def pieceDigits (text : List Char) : List Char :=
  (text.take 4).takeWhile fun c => (hexValue? c).isSome

/-- Reads pieces: `left` more may come, `pieces` have been read, and the missing ones belong after the first
    `gap` of them. A gap stands for one piece at least. -/
def pieces? : Nat → List Nat → Option Nat → List Char → Option (List Nat × Option Nat)
  | _, pieces, gap, [] => some (pieces, gap)
  | 0, _, _, _ :: _ => none
  | left + 1, pieces, gap, c :: rest =>
    if c = ':' then
      if gap.isSome then none else pieces? left (pieces ++ [0]) (some (pieces.length + 1)) rest
    else
      let digits := pieceDigits (c :: rest)
      match ofRadix? 16 digits, (c :: rest).drop digits.length with
      | some n, [] => some (pieces ++ [n], gap)
      | some n, ':' :: next :: rest => pieces? left (pieces ++ [n]) gap (next :: rest)
      | some _, '.' :: _ =>
        if digits ≠ [] ∧ 0 < left then (embedded? (c :: rest)).map fun last => (pieces ++ last, gap) else none
      | _, _ => none

/-- The eight pieces that a text denotes. -/
def parse? (text : List Char) : Option (List Nat) := do
  let (pieces, gap) ← match text with
    | ':' :: ':' :: rest => pieces? 7 [0] (some 1) rest
    | ':' :: _ => none
    | [_] => none
    | [] => none
    | _ => pieces? 8 [] none text
  match gap with
  | some gap => some (pieces.take gap ++ List.replicate (8 - pieces.length) 0 ++ pieces.drop gap)
  | none => if pieces.length = 8 then some pieces else none

/-- The number of zeros at the front of a list. -/
def leadingZeros (pieces : List Nat) : Nat :=
  (pieces.takeWhile (· == 0)).length

/-- Where the longest run of zeros begins and how long it is; the first of equal length. -/
def longestZeros : Nat → List Nat → Nat × Nat
  | _, [] => (0, 0)
  | start, n :: rest =>
    let here := leadingZeros (n :: rest)
    let later := longestZeros (start + 1) rest
    if later.2 ≤ here then (start, here) else later

/-- Pieces with colons between them. -/
def colonSeparated (pieces : List Nat) : List Char :=
  [':'].intercalate (pieces.map (Nat.toDigits 16))

/-- An address in its usual form: the longest run of two zeros or more is left out. -/
def text (pieces : List Nat) : List Char :=
  let (start, length) := longestZeros 0 pieces
  if length < 2 then colonSeparated pieces
  else colonSeparated (pieces.take start) ++ ':' :: ':' :: colonSeparated (pieces.drop (start + length))

end Ipv6

end ClusterConsole
