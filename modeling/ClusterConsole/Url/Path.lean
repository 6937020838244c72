import ClusterConsole.Url.Basic
import ClusterConsole.Url.Percent

/-! # Paths of addresses

A path is a list of segments. The segment `.` means no step, `..` a step back, and either may be written in
percent encoding. When one comes last the path ends in an empty segment. A step back does not leave a
segment that names a drive, such as `C:`. -/

namespace ClusterConsole

namespace Segment

/-- A point as it may be written. -/
def isDot (text : List Char) : Bool :=
  text == ['.'] || text == ['%', '2', 'e'] || text == ['%', '2', 'E']

/-- Whether a segment means no step. -/
def isHere (text : List Char) : Bool :=
  isDot text

/-- Whether a segment means a step back: two points, of which the first takes one or three characters. -/
def isBack (text : List Char) : Bool :=
  [1, 3].any fun n => isDot (text.take n) && isDot (text.drop n)

/-- Whether a segment names a drive. -/
def isDrive : List Char → Bool
  | [letter, mark] => letter.isAlpha && (mark == ':' || mark == '|')
  | _ => false

end Segment

/-- The segments of a path, each after its slash. -/
abbrev Path := List (List Char)

namespace Path

/-- The path after a step back. -/
def back (path : Path) : Path :=
  match path.getLast? with
  | some last => if Segment.isDrive last then path else path.dropLast
  | none => []

/-- The path after one more segment; `final` if nothing follows it. -/
def step (path : Path) (segment : List Char) (final : Bool) : Path :=
  if Segment.isBack segment then path.back ++ (if final then [[]] else [])
  else if Segment.isHere segment then path ++ (if final then [[]] else [])
  else path ++ [segment]

/-- The path after several segments, of which the last is final. -/
def steps (path : Path) : List (List Char) → Path
  | [] => path
  | [segment] => path.step segment true
  | segment :: next :: rest => steps (path.step segment false) (next :: rest)

/-- The path without an empty segment at its end, unless that is the only one. -/
def withoutTrailingSlash (path : Path) : Path :=
  if path.getLast? = some [] ∧ path ≠ [[]] then path.dropLast else path

/-- The characters that are dropped from a segment wherever they stand. -/
def isDropped (c : Char) : Bool :=
  c == '\t' || c == '\n' || c == '\r'

/-- The path with a text as one more segment. A text that is `.` or `..` adds none. The path `/` has an
    empty segment only, which the new one replaces. -/
def push (path : Path) (text : List Char) : Path :=
  if text = ['.'] ∨ text = ['.', '.'] then path
  else
    let segment := Percent.encode Percent.inSegment (text.filter (!isDropped ·))
    step (if path = [[]] then [] else path) segment true

/-- The path with several texts as further segments. -/
def extend (path : Path) (texts : List (List Char)) : Path :=
  texts.foldl push path

end Path

end ClusterConsole
