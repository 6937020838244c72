/-! # Punycode

A label of a name as ASCII: its ASCII characters, and behind a hyphen one number for each other character that tells
which one it is and where it goes. The characters come in the order of their numbers, so each number counts the places
that were passed over since the last one. Numbers are written with digits whose weights adapt to the numbers
before. -/

namespace ClusterConsole.Punycode

/-- The number of digits. -/
def base : Nat := 36

/-- The digit of a value. -/
def digit (value : Nat) : Char :=
  if value < 26 then Char.ofNat ('a'.toNat + value) else Char.ofNat ('0'.toNat + (value - 26))

/-- The value of a digit. -/
def value? (c : Char) : Option Nat :=
  if 'a' ≤ c ∧ c ≤ 'z' then some (c.toNat - 'a'.toNat)
  else if 'A' ≤ c ∧ c ≤ 'Z' then some (c.toNat - 'A'.toNat)
  else if '0' ≤ c ∧ c ≤ '9' then some (c.toNat - '0'.toNat + 26)
  else none

/-- The least value of a digit that has another one behind it, at a place and with a bias. -/
def threshold (place bias : Nat) : Nat :=
  max 1 (min 26 (place - bias))

/-- A threshold leaves some values. -/
theorem one_le_threshold (place bias : Nat) : 1 ≤ threshold place bias := by
  unfold threshold
  omega

/-- Divides until little is left, and counts. -/
def shrink (delta : Nat) (steps : Nat) : Nat × Nat :=
  if 455 < delta then shrink (delta / 35) (steps + 1) else (delta, steps)
termination_by delta
decreasing_by exact Nat.div_lt_self (by omega) (by omega)

/-- The bias after a number, of which `count` have been written. The first number is damped more. -/
def adapt (delta count : Nat) (isFirst : Bool) : Nat :=
  let delta := if isFirst then delta / 700 else delta / 2
  let (delta, steps) := shrink (delta + delta / count) 0
  base * steps + base * delta / (delta + 38)

/-- The number of the first character that is not ASCII. -/
def firstNumber : Nat := 0x80

/-- The bias at the beginning. -/
def firstBias : Nat := 72

/-! ### Writing -/

/-- The digits of a number from a place on. -/
def digits (bias place n : Nat) : List Char :=
  let t := threshold place bias
  if n < t then [digit n]
  else digit (t + (n - t) % (base - t)) :: digits bias (place + base) ((n - t) / (base - t))
termination_by n
decreasing_by
  have := one_le_threshold place bias
  exact Nat.lt_of_le_of_lt (Nat.div_le_self _ _) (by omega)

/-- What is known while a label is written. -/
structure Writing where
  /-- The places passed over since the last character. -/
  delta : Nat := 0
  bias : Nat := firstBias
  /-- How many characters are written. -/
  count : Nat
  digits : List Char := []
deriving DecidableEq, Repr

/-- Passes over a place of the label while the characters numbered `n` are written. -/
def Writing.pass (ascii n : Nat) (w : Writing) (c : Char) : Writing :=
  if c.toNat < n then { w with delta := w.delta + 1 }
  else if c.toNat = n then
    { delta := 0
      bias := adapt w.delta (w.count + 1) (w.count == ascii)
      count := w.count + 1
      digits := w.digits ++ Punycode.digits w.bias base w.delta }
  else w

/-- Writes the characters of the numbers `rest`, the next of which was to be `n`. -/
def write (label : List Char) (ascii n : Nat) (w : Writing) : List Nat → Writing
  | [] => w
  | m :: rest =>
    let jumped := { w with delta := w.delta + (m - n) * (w.count + 1) }
    let passed := label.foldl (Writing.pass ascii m) jumped
    write label ascii (m + 1) { passed with delta := passed.delta + 1 } rest

/-- A label as ASCII. -/
def encode (label : List Char) : List Char :=
  let ascii := label.filter (·.toNat < firstNumber)
  let others := ((label.filter (firstNumber ≤ ·.toNat)).map Char.toNat).mergeSort.eraseReps
  let w := write label ascii.length firstNumber { count := ascii.length } others
  ascii ++ (if ascii = [] then [] else ['-']) ++ w.digits

/-! ### Reading -/

/-- Reads a number from a place on, where digits have the given weight. -/
def number? (bias place weight n : Nat) : List Char → Option (Nat × List Char)
  | [] => none
  | c :: rest =>
    match value? c with
    | none => none
    | some value =>
      let t := threshold place bias
      if value < t then some (n + value * weight, rest)
      else number? bias (place + base) (weight * (base - t)) (n + value * weight) rest

/-- A number takes some digits. -/
theorem length_of_number? {bias place weight n m : Nat} {text rest : List Char}
    (h : number? bias place weight n text = some (m, rest)) : rest.length < text.length := by
  induction text generalizing place weight n with
  | nil => simp [number?] at h
  | cons c text ih =>
    simp only [number?] at h
    split at h
    · simp at h
    · split at h
      · simp_all
      · have := ih h
        simp only [List.length_cons]
        omega

/-- Puts the characters that are left into a label. The next one has the number `n` or a greater one, and its place is
    counted from `place` on. -/
def insert? (label : List Char) (n place bias : Nat) (text : List Char) : Option (List Char) :=
  if text = [] then some label
  else
    match h : number? bias base 1 place text with
    | none => none
    | some (m, rest) =>
      have := length_of_number? h
      let count := label.length + 1
      let n := n + m / count
      let found := m % count
      if n.isValidChar then
        insert? (label.take found ++ Char.ofNat n :: label.drop found) n (found + 1)
          (adapt (m - place) count (place == 0)) rest
      else none
termination_by text.length

/-- The part before the last hyphen, and the part behind it. Without a hyphen that has something before it there is only
    the second part. -/
def parts (text : List Char) : List Char × List Char :=
  let behind := text.reverse.takeWhile (· != '-')
  let ascii := (text.take (text.length - behind.length)).dropLast
  if ascii = [] then ([], text) else (ascii, behind.reverse)

/-- The label that a text writes. -/
def decode? (text : List Char) : Option (List Char) :=
  let (ascii, numbers) := parts text
  insert? ascii firstNumber 0 firstBias numbers

end ClusterConsole.Punycode
