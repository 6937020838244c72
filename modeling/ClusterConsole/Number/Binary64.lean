import ClusterConsole.Number.Decimal

/-! # Binary floating point

A number of the 64-bit binary format of IEEE 754, as its bit pattern. A finite number is a whole number
of units of `2^-1074`, the least positive one, so values, comparisons, products and quotients are exact
arithmetic on whole numbers followed by one rounding.

The patterns of the positive finite numbers, read as whole numbers, list these numbers in increasing
order. Rounding uses this: the pattern of `mantissa * 2^shift` units is `shift * 2^52 + mantissa`, also
when the mantissa has just been rounded up to `2^53`, and every pattern from that of infinity on stands
for an overflow. -/

namespace ClusterConsole

/-- A binary floating point number of 64 bits: sign, eleven bits of exponent, 52 bits of fraction. -/
structure Binary64 where
  bits : UInt64
deriving DecidableEq, Repr

namespace Binary64

/-- The number of units in one. -/
def unitsPerOne : Nat := Nat.pow 2 1074

/-- The pattern of positive infinity. -/
def infinityPattern : Nat := 0x7FF0000000000000

/-- One more than the greatest fraction: 2^52. -/
def fractionLimit : Nat := 0x10000000000000

/-- Whether the sign bit is set. -/
def negative (x : Binary64) : Bool :=
  Word.signedLimit ≤ x.bits.toNat

/-- The pattern without the sign. -/
def magnitude (x : Binary64) : Nat :=
  x.bits.toNat % Word.signedLimit

/-- Neither an infinity nor a NaN. -/
def isFinite (x : Binary64) : Bool :=
  x.magnitude < infinityPattern

/-- The number with the given sign and pattern below the sign. -/
def ofMagnitude (negative : Bool) (magnitude : Nat) : Binary64 :=
  ⟨.ofNat ((if negative then Word.signedLimit else 0) + magnitude)⟩

/-- The power of two that the mantissa counts, in units. -/
def shift (x : Binary64) : Nat :=
  x.magnitude / fractionLimit - 1

/-- The fraction, with the leading bit that only subnormal numbers lack. -/
def mantissa (x : Binary64) : Nat :=
  x.magnitude - x.shift * fractionLimit

/-- The size of a finite number, in units. -/
def units (x : Binary64) : Nat :=
  x.mantissa * Nat.pow 2 x.shift

/-- The quotient rounded to the nearest whole number, a half to the even neighbour. -/
def roundedQuotient (num den : Nat) : Nat :=
  let q := num / den
  let twice := 2 * (num % den)
  if den < twice ∨ (twice = den ∧ q % 2 = 1) then q + 1 else q

/-- The finer steps of the format end where a mantissa of 53 bits does: the power of two, in units,
    that separates the numbers next to `num / den` units. -/
def gridShift (num den : Nat) : Nat :=
  (num / den).log2 - 52

/-- The pattern of the number nearest to `num / den` units; infinity when it lies beyond the range. -/
def nearestMagnitude (num den : Nat) : Nat :=
  let s := gridShift num den
  min (s * fractionLimit + roundedQuotient num (den * Nat.pow 2 s)) infinityPattern

/-- The number nearest to a quotient. -/
def ofRatio (negative : Bool) (num den : Nat) : Binary64 :=
  ofMagnitude negative (nearestMagnitude (num * unitsPerOne) den)

/-- The number nearest to a whole number. -/
def ofNat (n : Nat) : Binary64 :=
  ofRatio false n 1

/-- The number nearest to an integer. -/
def ofInt (n : Int) : Binary64 :=
  ofRatio (n < 0) n.natAbs 1

/-- The number nearest to a product. The signs of the factors do not matter here: readers of decimal
    texts multiply sizes and apply the sign last. -/
def times (x y : Binary64) : Binary64 :=
  ofMagnitude false (nearestMagnitude (x.units * y.units) unitsPerOne)

/-- The number nearest to a quotient of sizes. -/
def dividedBy (x y : Binary64) : Binary64 :=
  ofMagnitude false (nearestMagnitude (x.units * unitsPerOne) y.units)

/-- The same number with the sign turned. -/
def negate (x : Binary64) : Binary64 :=
  ofMagnitude (!x.negative) x.magnitude

/-- The place of a number in the total order: negative NaNs, minus infinity, the negative numbers, -0,
    0, the positive numbers, infinity, NaNs. -/
def rank (x : Binary64) : Int :=
  if x.negative then -1 - x.magnitude else x.magnitude

/-- The total order on bit patterns. -/
def compareTotal (x y : Binary64) : Ordering :=
  compare x.rank y.rank

end Binary64

end ClusterConsole
