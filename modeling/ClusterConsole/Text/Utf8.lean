/-! # UTF-8

Texts are lists of characters inside this library and lists of bytes on the wire. Writing is total.
Reading takes the longest prefix that is well formed: a byte that begins no character, a sequence cut
short, an overlong form and the number of a surrogate all end it. The rest is empty exactly when the
bytes are the UTF-8 form of a text. -/

namespace ClusterConsole.Utf8

/-- The one to four bytes of a character: a lead byte that holds the highest bits, then six bits in
    each byte that follows. -/
def encodeChar (c : Char) : List UInt8 :=
  let n := c.toNat
  if n < 0x80 then [.ofNat n]
  else if n < 0x800 then [.ofNat (0xC0 + n / 0x40), .ofNat (0x80 + n % 0x40)]
  else if n < 0x10000 then
    [.ofNat (0xE0 + n / 0x1000), .ofNat (0x80 + n / 0x40 % 0x40), .ofNat (0x80 + n % 0x40)]
  else
    [.ofNat (0xF0 + n / 0x40000), .ofNat (0x80 + n / 0x1000 % 0x40), .ofNat (0x80 + n / 0x40 % 0x40),
      .ofNat (0x80 + n % 0x40)]

/-- The bytes of a text. -/
def encode (text : List Char) : List UInt8 :=
  text.flatMap encodeChar

/-- The bytes of a string. -/
def ofString (text : String) : List UInt8 :=
  encode text.toList

/-- The character numbered `n`, if there is one and it needs `least` or more. -/
def scalar? (least n : Nat) : Option Char :=
  if least ≤ n ∧ n.isValidChar then some (Char.ofNat n) else none

/-- The six bits of a byte that continues a character. -/
def tail? (b : UInt8) : Option Nat :=
  if 0x80 ≤ b ∧ b < 0xC0 then some (b.toNat - 0x80) else none

/-- The character of two bytes. -/
def two? (a b : UInt8) : Option Char := do
  if 0xC0 ≤ a ∧ a < 0xE0 then scalar? 0x80 ((a.toNat - 0xC0) * 0x40 + (← tail? b)) else none

/-- The character of three bytes. -/
def three? (a b c : UInt8) : Option Char := do
  if 0xE0 ≤ a ∧ a < 0xF0 then
    scalar? 0x800 ((a.toNat - 0xE0) * 0x1000 + (← tail? b) * 0x40 + (← tail? c))
  else none

/-- The character of four bytes. -/
def four? (a b c d : UInt8) : Option Char := do
  if 0xF0 ≤ a then
    scalar? 0x10000
      ((a.toNat - 0xF0) * 0x40000 + (← tail? b) * 0x1000 + (← tail? c) * 0x40 + (← tail? d))
  else none

/-- The longest well-formed prefix, as characters, and the bytes after it. -/
def decodePrefix : List UInt8 → List Char × List UInt8
  | [] => ([], [])
  | a :: r =>
    if a < 0x80 then
      let (text, rest) := decodePrefix r
      (Char.ofNat a.toNat :: text, rest)
    else
      match r with
      | [] => ([], [a])
      | b :: r =>
        match two? a b with
        | some x =>
          let (text, rest) := decodePrefix r
          (x :: text, rest)
        | none =>
          match r with
          | [] => ([], [a, b])
          | c :: r =>
            match three? a b c with
            | some x =>
              let (text, rest) := decodePrefix r
              (x :: text, rest)
            | none =>
              match r with
              | [] => ([], [a, b, c])
              | d :: r =>
                match four? a b c d with
                | some x =>
                  let (text, rest) := decodePrefix r
                  (x :: text, rest)
                | none => ([], a :: b :: c :: d :: r)

/-- The text of well-formed bytes. -/
def decode? (bytes : List UInt8) : Option (List Char) :=
  match decodePrefix bytes with
  | (text, []) => some text
  | _ => none

/-- The string of well-formed bytes. -/
def string? (bytes : List UInt8) : Option String :=
  (decode? bytes).map String.ofList

/-! ### Places in a text -/

/-- The bytes at which the characters of a text begin, the first of them at `offset`. -/
def starts (offset : Nat) : List Char → List Nat
  | [] => []
  | c :: text => offset :: starts (offset + (encodeChar c).length) text

/-- A string up to a byte; none when the byte lies inside a character or beyond the end. -/
def upTo? (s : String) (cut : Nat) : Option String :=
  if cut ≤ (ofString s).length then string? ((ofString s).take cut) else none

end ClusterConsole.Utf8
