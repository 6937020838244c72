import ClusterConsole.Unicode.CombiningClass
import ClusterConsole.Unicode.Decomposition

/-! # Composed texts

Texts that differ only in how their characters are put together have one composed form: all characters are taken
apart, marks are put in the order of their classes, and what has a composite is put together again. -/

namespace ClusterConsole.Unicode

/-! ### The syllables of the Korean alphabet -/

/-- The first leading consonant. -/
def leadBase : Nat := 0x1100

/-- The first vowel. -/
def vowelBase : Nat := 0x1161

/-- The number before the first trailing consonant. It stands for none at all. -/
def trailBase : Nat := 0x11A7

/-- The first syllable. -/
def syllableBase : Nat := 0xAC00

/-- How many leading consonants there are. -/
def leadCount : Nat := 19

/-- How many vowels there are. -/
def vowelCount : Nat := 21

/-- How many trailing consonants there are, with none at all. -/
def trailCount : Nat := 28

/-- The parts of a syllable. -/
def syllableParts? (c : Char) : Option (List Char) :=
  let n := c.toNat - syllableBase
  if syllableBase ≤ c.toNat ∧ n < leadCount * vowelCount * trailCount then
    let lead := Char.ofNat (leadBase + n / (vowelCount * trailCount))
    let vowel := Char.ofNat (vowelBase + n % (vowelCount * trailCount) / trailCount)
    let trail := n % trailCount
    some (if trail = 0 then [lead, vowel] else [lead, vowel, Char.ofNat (trailBase + trail)])
  else none

/-- The syllable that two parts make: a consonant and a vowel, or a syllable without trailing consonant and one. -/
def syllable? (a b : Char) : Option Char :=
  let lead := a.toNat - leadBase
  let vowel := b.toNat - vowelBase
  let n := a.toNat - syllableBase
  let trail := b.toNat - trailBase
  if leadBase ≤ a.toNat ∧ lead < leadCount ∧ vowelBase ≤ b.toNat ∧ vowel < vowelCount then
    some (Char.ofNat (syllableBase + (lead * vowelCount + vowel) * trailCount))
  else if syllableBase ≤ a.toNat ∧ n < leadCount * vowelCount * trailCount ∧ n % trailCount = 0 ∧ trailBase < b.toNat ∧
      trail < trailCount then
    some (Char.ofNat (a.toNat + trail))
  else none

/-! ### Taking apart -/

/-- A character taken apart. The first half of a composite may be a composite, to a depth of `depth`. -/
def takeApart (depth : Nat) (c : Char) : List Char :=
  match syllableParts? c, Rule.find? replaced c, Rule.find? composites c with
  | some parts, _, _ => parts
  | none, some rule, _ => rule.target.map Char.ofNat
  | none, none, some rule =>
    match depth, rule.target with
    | depth + 1, [first, second] => takeApart depth (Char.ofNat first) ++ [Char.ofNat second]
    | _, target => target.map Char.ofNat
  | none, none, none => [c]

/-- The greatest depth of composites. -/
def compositeDepth : Nat := 4

/-- A mark with its class goes before the marks at the end that have a greater one. The text is held from its end. -/
def insertMark (mark : Char × Nat) : List (Char × Nat) → List (Char × Nat)
  | [] => [mark]
  | last :: before => if mark.2 < last.2 then last :: insertMark mark before else mark :: last :: before

/-- A text, held from its end, with one more character. -/
def place (text : List (Char × Nat)) (c : Char) : List (Char × Nat) :=
  let k := combiningClass c
  if k = 0 then (c, k) :: text else insertMark (c, k) text

/-- A text taken apart, with its marks in order. -/
def decomposed (text : List Char) : List (Char × Nat) :=
  ((text.flatMap (takeApart compositeDepth)).foldl place []).reverse

/-! ### Putting together -/

/-- The composite of two characters. -/
def composite? (a b : Char) : Option Char :=
  match syllable? a b with
  | some syllable => some syllable
  | none => (composites.find? fun rule => rule.target == [a.toNat, b.toNat]).map fun rule => Char.ofNat rule.first

/-- Puts together what follows a base: `kept` are the marks that stay, from their end, and the last of them has the class
    `last`. A character reaches the base only over marks of lower classes. -/
def attach (base : Char) (kept : List Char) (last : Nat) : List (Char × Nat) → List Char
  | [] => base :: kept.reverse
  | (c, k) :: rest =>
    match (if kept = [] ∨ last < k then composite? base c else none) with
    | some together => attach together kept last rest
    | none =>
      if k = 0 then (base :: kept.reverse) ++ attach c [] 0 rest
      else attach base (c :: kept) k rest

/-- Puts together a text that was taken apart. -/
def putTogether : List (Char × Nat) → List Char
  | [] => []
  | (c, k) :: rest => if k = 0 then attach c [] 0 rest else c :: putTogether rest

/-- The composed form of a text. -/
def composed (text : List Char) : List Char :=
  putTogether (decomposed text)

end ClusterConsole.Unicode
