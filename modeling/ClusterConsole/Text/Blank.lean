/-! # Blanks

The characters with the property White_Space, and cutting them off the ends of a text. A zero width
space (U+200B), a byte order mark (U+FEFF) and the Mongolian vowel separator (U+180E) are not among
them. -/

namespace ClusterConsole

/-- Whether a character has the property White_Space. -/
def isBlank (c : Char) : Bool :=
  let n := c.toNat
  (0x09 ≤ n && n ≤ 0x0D) || n == 0x20 || n == 0x85 || n == 0xA0 || n == 0x1680 ||
    (0x2000 ≤ n && n ≤ 0x200A) || n == 0x2028 || n == 0x2029 || n == 0x202F || n == 0x205F || n == 0x3000

namespace Blank

/-- A text without the blanks it begins with. -/
def trimStart (text : List Char) : List Char :=
  text.dropWhile isBlank

/-- A text without the blanks it ends with. -/
def trimEnd (text : List Char) : List Char :=
  (text.reverse.dropWhile isBlank).reverse

/-- A text without blanks at either end. -/
def trim (text : List Char) : List Char :=
  trimEnd (trimStart text)

end Blank

end ClusterConsole
