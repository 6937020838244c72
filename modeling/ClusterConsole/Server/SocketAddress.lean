import ClusterConsole.Number.Decimal
import ClusterConsole.Url.Address

/-! # Socket addresses

Where a server listens: a number of a host and a port. A number of version 4 is four decimal bytes without leading
zeros. A number of version 6 stands in brackets, possibly with the number of a zone. -/

namespace ClusterConsole.Server

/-- A socket address. -/
inductive SocketAddress where
  | v4 (bytes : List Nat) (port : Nat)
  | v6 (pieces : List Nat) (zone port : Nat)
deriving DecidableEq, Repr

namespace SocketAddress

/-- A number of at most a bound. Leading zeros are fine. -/
def bounded? (bound : Nat) (text : List Char) : Option Nat := do
  let n ← Decimal.natural? text
  if n ≤ bound then some n else none

/-- A port. -/
def port? (text : List Char) : Option Nat :=
  bounded? 65535 text

/-- The bytes of a number of version 4. -/
def bytes? (text : List Char) : Option (List Nat) := do
  let bytes ← (text.splitOn '.').mapM Ipv6.byte?
  if bytes.length = 4 then some bytes else none

/-- A piece of a number of version 6: at most four hexadecimal digits. -/
def piece? (text : List Char) : Option Nat :=
  if text ≠ [] ∧ text.length ≤ 4 then ofRadix? 16 text else none

/-- Pieces with colons between them, the last two possibly as a number of version 4. -/
def run? (allowV4 : Bool) (text : List Char) : Option (List Nat) :=
  if text = [] then some []
  else
    let parts := text.splitOn ':'
    match parts.getLast?.bind Ipv6.embedded? with
    | some last =>
      if allowV4 then (parts.dropLast.mapM piece?).map (· ++ last) else none
    | none => parts.mapM piece?

/-- What stands before and after the first double colon, if there is one. -/
def splitGap : List Char → List Char × Option (List Char)
  | [] => ([], none)
  | ':' :: ':' :: rest => ([], some rest)
  | c :: rest =>
    let (before, after) := splitGap rest
    (c :: before, after)

/-- The pieces of a number of version 6. A double colon stands for one piece at least. -/
def pieces? (text : List Char) : Option (List Nat) := do
  match splitGap text with
  | (all, none) =>
    let pieces ← run? true all
    if pieces.length = 8 then some pieces else none
  | (before, some after) =>
    let head ← run? false before
    let tail ← run? true after
    if head.length + tail.length ≤ 7 then
      some (head ++ List.replicate (8 - head.length - tail.length) 0 ++ tail)
    else none

/-- A number of version 6 with the number of its zone, which is zero when none is written. -/
def scoped? (text : List Char) : Option (List Nat × Nat) := do
  let pieces ← pieces? (text.takeWhile (· != '%'))
  match text.dropWhile (· != '%') with
  | '%' :: zone => some (pieces, ← bounded? 0xFFFFFFFF zone)
  | _ => some (pieces, 0)

/-- The address that a text denotes. -/
def parse? (text : List Char) : Option SocketAddress := do
  match text with
  | '[' :: rest =>
    match rest.dropWhile (· != ']') with
    | ']' :: ':' :: port =>
      let (pieces, zone) ← scoped? (rest.takeWhile (· != ']'))
      some (.v6 pieces zone (← port? port))
    | _ => none
  | _ =>
    match text.dropWhile (· != ':') with
    | ':' :: port => some (.v4 (← bytes? (text.takeWhile (· != ':'))) (← port? port))
    | _ => none

end SocketAddress

end ClusterConsole.Server
