import ClusterConsole.Url.Address

/-! # Tables of characters

A table says for stretches of characters what they are or stand for. It is written as words: `41-5A=61` is the stretch of
the characters numbered 41 to 5A, which stand for those from 61 on in the same order; `100-12E/2=101` has every
second character only; `A8=20.308` stands for two. All numbers are hexadecimal. -/

namespace ClusterConsole.Unicode

/-- A stretch of characters and what they stand for. -/
structure Rule where
  first : Nat
  last : Nat
  /-- Every how many characters the stretch has one. -/
  step : Nat := 1
  target : List Nat := []
deriving DecidableEq, Repr

namespace Rule

/-- A hexadecimal number. -/
def number (digits : List Char) : Nat :=
  (ofRadix? 16 digits).getD 0

/-- The part of a word before a character and the part behind it. -/
def halves (mark : Char) (word : List Char) : List Char × List Char :=
  (word.takeWhile (· != mark), (word.dropWhile (· != mark)).drop 1)

/-- The rule that a word writes. -/
def ofWord (word : List Char) : Rule :=
  let (stretch, target) := halves '=' word
  let (ends, step) := halves '/' stretch
  let (first, last) := halves '-' ends
  { first := number first
    last := number (if last = [] then first else last)
    step := if step = [] then 1 else number step
    target := if target = [] then [] else (target.splitOn '.').map number }

/-- The words of a text. -/
def words (text : String) : List (List Char) :=
  (text.toList.splitOn '\n').flatMap fun line => (line.splitOn ' ').filter (· ≠ [])

/-- The table that a text writes. -/
def table (text : String) : List Rule :=
  (words text).map ofWord

/-- Whether a rule is about a character. -/
def covers (r : Rule) (c : Char) : Bool :=
  r.first ≤ c.toNat && c.toNat ≤ r.last && (c.toNat - r.first) % r.step == 0

/-- The rule of a table about a character. -/
def find? (rules : List Rule) (c : Char) : Option Rule :=
  rules.find? (·.covers c)

/-- What a character of a stretch stands for. -/
def image (r : Rule) (c : Char) : List Char :=
  match r.target with
  | [first] => [Char.ofNat (first + (c.toNat - r.first))]
  | target => target.map Char.ofNat

end Rule

end ClusterConsole.Unicode
