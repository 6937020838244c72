import ClusterConsole.Number.Shortest

/-! # Two notations for binary numbers

Both write the shortest digits that read back. People read the positional notation: never an exponent,
padded with zeros, and no fraction when there is none. Documents hold the scientific notation, which
keeps numbers of moderate size positional but marks every number as fractional by a point or an
exponent. -/

namespace ClusterConsole.Binary64

/-- The size of the number, positive. -/
def size (x : Binary64) : Binary64 :=
  ofMagnitude false x.magnitude

/-- A sign in front of the text of a negative number. -/
def signed (x : Binary64) (text : List Char) : List Char :=
  if x.negative then '-' :: text else text

/-- A decimal without exponent. A number without a fraction ends in `whole`. -/
def positional (whole : List Char) (d : Scientific) : List Char :=
  let ds := Decimal.digits d.digits
  if 0 ≤ d.exponent then ds ++ List.replicate d.exponent.toNat '0' ++ whole
  else
    let places := (-d.exponent).toNat
    if places < ds.length then ds.take (ds.length - places) ++ '.' :: ds.drop (ds.length - places)
    else '0' :: '.' :: (List.replicate (places - ds.length) '0' ++ ds)

/-- A decimal with one digit before the point and an exponent with its sign. -/
def scientific (d : Scientific) : List Char :=
  let exponent := d.leading
  let mantissa := match Decimal.digits d.digits with
    | first :: second :: rest => first :: '.' :: second :: rest
    | ds => ds
  let sign := if exponent < 0 then '-' else '+'
  mantissa ++ 'e' :: sign :: Decimal.digits exponent.natAbs

/-- The text that people read. -/
def display (x : Binary64) : List Char :=
  if !x.isFinite then
    if x.magnitude = infinityPattern then x.signed ['i', 'n', 'f'] else ['N', 'a', 'N']
  else if x.magnitude = 0 then x.signed ['0']
  else x.signed (positional [] (x.size.shortest .up))

/-- The text that documents hold: positional from `10^-5` to below `10^16`. What is not a number has no
    form of its own and is written as null. -/
def literal (x : Binary64) : List Char :=
  if !x.isFinite then ['n', 'u', 'l', 'l']
  else if x.magnitude = 0 then x.signed ['0', '.', '0']
  else
    let d := x.size.shortest .even
    x.signed (if -5 ≤ d.leading ∧ d.leading < 16 then positional ['.', '0'] d else scientific d)

end ClusterConsole.Binary64
