import ClusterConsole.Unicode.Composed
import ClusterConsole.Unicode.Direction
import ClusterConsole.Unicode.Joining
import ClusterConsole.Unicode.Mark
import ClusterConsole.Url.NameMapping
import ClusterConsole.Url.Percent
import ClusterConsole.Url.Punycode

/-! # Names of hosts

A name is written in percent encoding, in any case and with any variant of its characters, and means one form of itself
in ASCII. Its labels, between the points, are taken to their usual form and checked; those that are not ASCII are
written as ASCII behind a mark of four characters. A name that is ASCII and has no such mark only changes its case. Some
characters can stand in no name. -/

namespace ClusterConsole.Domain

open Unicode

/-- Whether a character can stand in no name: the controls, the space, and what has a meaning elsewhere in
    an address. -/
def isForbidden (c : Char) : Bool :=
  c.toNat ≤ 0x20 || c.toNat == 0x7F || c == '%' || c == '#' || c == '/' || c == ':' || c == '<' || c == '>' ||
    c == '?' || c == '@' || c == '[' || c == '\\' || c == ']' || c == '^' || c == '|'

/-- Whether a character is ASCII. -/
def isAscii (c : Char) : Bool :=
  c.toNat < 0x80

/-- What the ASCII form of a label that is not ASCII begins with. -/
def asciiMark : List Char := ['x', 'n', '-', '-']

/-- The labels of a name. -/
def labels (name : List Char) : List (List Char) :=
  name.splitOn '.'

/-! ### Joiners -/

/-- The character that keeps letters apart in writing. -/
def nonJoiner : Char := '\u200C'

/-- The character that joins letters in writing. -/
def joiner : Char := '\u200D'

/-- Whether a joiner may stand behind `before`, which is held from its end, and before `after`: behind a sign that
    takes the vowel from a consonant; a non-joiner also between letters that would be joined without it. -/
def joinerFits (before : List Char) (c : Char) (after : List Char) : Bool :=
  (before.head?.map combiningClass == some viramaClass) ||
    (c == nonJoiner && (before.dropWhile isTransparent).head?.any joinsNext &&
      (after.dropWhile isTransparent).head?.any joinsPrevious)

/-- Whether all joiners stand where they may, behind what has been passed. -/
def joinersFit (before : List Char) : List Char → Bool
  | [] => true
  | c :: after =>
    (!(c == nonJoiner || c == joiner) || joinerFits before c after) && joinersFit (c :: before) after

/-! ### Directions -/

/-- Whether a label has a part that is written from right to left. -/
def hasRightToLeft (label : List Char) : Bool :=
  label.any fun c => Direction.ofChar c ∈ [.right, .arabicLetter, .arabicNumber]

/-- The directions that can occur in a label of either kind. -/
def commonDirections : List Direction :=
  [.europeanNumber, .europeanSeparator, .commonSeparator, .europeanTerminator, .neutral, .boundary, .mark]

/-- Whether a label is written in one direction, and seen to be by its first and last characters. -/
def directionFits (label : List Char) : Bool :=
  let directions := label.map Direction.ofChar
  let last := (directions.reverse.dropWhile (· == .mark)).head?
  match directions with
  | [] => true
  | .left :: _ =>
    directions.all (· ∈ Direction.left :: commonDirections) && last.any (· ∈ [.left, .europeanNumber])
  | .right :: _ | .arabicLetter :: _ =>
    directions.all (· ∈ [.right, .arabicLetter, .arabicNumber] ++ commonDirections) &&
      last.any (· ∈ [.right, .arabicLetter, .europeanNumber, .arabicNumber]) &&
      !(directions.any (· == .europeanNumber) && directions.any (· == .arabicNumber))
  | _ => false

/-! ### Labels -/

/-- Whether a label is in its usual form and may stand in a name. -/
def isValidLabel (label : List Char) : Bool :=
  composed label == label && !label.head?.any isMark && label.all isValid && joinersFit [] label

/-- The label that is meant by one of which the characters have their usual form. -/
def read? (label : List Char) : Option (List Char) :=
  if asciiMark.isPrefixOf label then do
    if !label.all isAscii then none
    let meant ← Punycode.decode? (label.drop asciiMark.length)
    if !meant.all isAscii && isValidLabel meant then some meant else none
  else if isValidLabel label then some label
  else none

/-- A label as ASCII. -/
def write (label : List Char) : List Char :=
  if label.all isAscii then label else asciiMark ++ Punycode.encode label

/-- The ASCII form of a name. -/
def ascii? (name : List Char) : Option (List Char) := do
  let meant ← (labels (composed (name.flatMap meaning))).mapM read?
  if meant.any hasRightToLeft && !meant.all directionFits then none
  some (['.'].intercalate (meant.map write))

/-- Whether a name is its own ASCII form but for its case. -/
def isPlain (name : List Char) : Bool :=
  name.all isAscii && (labels (name.map Char.toLower)).all fun label => !asciiMark.isPrefixOf label

/-- The name in the form that is looked up. -/
def lookup? (text : List Char) : Option (List Char) := do
  let name ← Utf8.decode? (Percent.decode (Utf8.encode text))
  let form ← if isPlain name then some (name.map Char.toLower) else ascii? name
  if form.any isForbidden then none else some form

end ClusterConsole.Domain
