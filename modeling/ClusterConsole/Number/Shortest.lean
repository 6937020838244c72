import ClusterConsole.Number.Decimal
import ClusterConsole.Number.Binary64

/-! # The shortest decimal of a binary number

A decimal reads back as `x` when `x` is the binary number nearest to it. Of the decimals that read back,
the shortest has the fewest digits, and of these it is the one nearest to `x`. For each count of digits
only the two neighbours of `x` on the grid of that many digits can be the answer, because every decimal
between `x` and one that reads back reads back too. Seventeen digits always suffice. -/

namespace ClusterConsole

/-- A positive decimal number: `digits * 10 ^ exponent`. -/
structure Scientific where
  digits : Nat
  exponent : Int
deriving DecidableEq, Repr

namespace Scientific

/-- The numerator of a decimal over `denominator`. -/
def numerator (d : Scientific) : Nat :=
  d.digits * Nat.pow 10 d.exponent.toNat

/-- The power of ten that a decimal is divided by. -/
def denominator (d : Scientific) : Nat :=
  Nat.pow 10 (-d.exponent).toNat

/-- The binary number nearest to a decimal. -/
def nearest (d : Scientific) : Binary64 :=
  .ofRatio false d.numerator d.denominator

/-- The same number without zeros at its end. -/
def trimmed (d : Scientific) : Scientific :=
  go d.digits d
where
  go : Nat → Scientific → Scientific
    | 0, d => d
    | fuel + 1, d => if d.digits % 10 = 0 then go fuel ⟨d.digits / 10, d.exponent + 1⟩ else d

/-- The power of ten of the first digit. -/
def leading (d : Scientific) : Int :=
  d.exponent + (Decimal.digits d.digits).length - 1

end Scientific

/-- Which way a value goes that lies halfway between two decimals. -/
inductive Tie where
  /-- To the one with the even last digit. -/
  | even
  /-- To the greater one. -/
  | up
deriving DecidableEq, Repr

namespace Binary64

/-- The power of ten of the first digit of a positive number. Ten to the 330 times the least positive
    number is greater than one, so the whole part of that multiple has the digits to count. -/
def leadingPower (x : Binary64) : Int :=
  (Decimal.digits (x.units * Nat.pow 10 330 / unitsPerOne)).length - 331

/-- The better of the two neighbours on the grid of `10 ^ exponent`, if one of them reads back. -/
def onGrid? (tie : Tie) (x : Binary64) (exponent : Int) : Option Scientific :=
  let num := x.units * Nat.pow 10 (-exponent).toNat
  let den := unitsPerOne * Nat.pow 10 exponent.toNat
  let low : Scientific := ⟨num / den, exponent⟩
  let high : Scientific := ⟨num / den + 1, exponent⟩
  let twice := 2 * (num % den)
  let lowIsNearer := twice < den ∨ (twice = den ∧ tie = .even ∧ low.digits % 2 = 0)
  if low.nearest = x then some (if high.nearest = x ∧ ¬lowIsNearer then high else low)
  else if high.nearest = x then some high
  else none

/-- The first grid with a decimal that reads back, from `exponent` downwards. -/
def shortestFrom (tie : Tie) (x : Binary64) (exponent : Int) : Nat → Scientific
  | 0 => ⟨x.units * Nat.pow 10 (-exponent).toNat / (unitsPerOne * Nat.pow 10 exponent.toNat), exponent⟩
  | grids + 1 => (x.onGrid? tie exponent).getD (shortestFrom tie x (exponent - 1) grids)

/-- The shortest decimal of a positive number. -/
def shortest (tie : Tie) (x : Binary64) : Scientific :=
  (shortestFrom tie x x.leadingPower 17).trimmed

end Binary64

end ClusterConsole
