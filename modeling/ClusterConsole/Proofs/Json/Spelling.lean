import ClusterConsole.Json.Skip
import ClusterConsole.Json.Text
import ClusterConsole.Proofs.Json.Reads
import ClusterConsole.Proofs.Text.Ascii

/-! # How strings are spelled

The grammar of strings: a character may stand for itself, be given by a letter behind a backslash, or by the number of
one UTF-16 unit or of two. A string is read as the characters that its parts stand for, and refused when there is half
of a pair of units without the other. A string that nobody wants is passed over, whatever it stands for. -/

namespace ClusterConsole.Json
open Ascii

/-! ### Units -/

/-- A hexadecimal digit. -/
structure HexDigit where
  char : Char
  value : Nat
  ascii : char.toNat < 0x80
  value_eq : hexDigit? (byte char) = some value

/-- A UTF-16 unit in four hexadecimal digits. -/
structure Unit16 where
  first : HexDigit
  second : HexDigit
  third : HexDigit
  fourth : HexDigit

namespace Unit16

/-- The number of a unit. -/
def value (u : Unit16) : Nat :=
  ((u.first.value * 16 + u.second.value) * 16 + u.third.value) * 16 + u.fourth.value

/-- The digits of a unit. -/
def text (u : Unit16) : List Char :=
  [u.first.char, u.second.char, u.third.char, u.fourth.char]

/-- The first half of a pair. -/
def Leads (u : Unit16) : Prop :=
  0xD800 ≤ u.value ∧ u.value ≤ 0xDBFF

/-- The second half of a pair. -/
def Trails (u : Unit16) : Prop :=
  0xDC00 ≤ u.value ∧ u.value ≤ 0xDFFF

instance (u : Unit16) : Decidable u.Leads :=
  inferInstanceAs (Decidable (_ ∧ _))

instance (u : Unit16) : Decidable u.Trails :=
  inferInstanceAs (Decidable (_ ∧ _))

/-- The character of a pair of units. -/
def pair (lead trail : Unit16) : Char :=
  .ofNat ((lead.value - 0xD800) * 0x400 + (trail.value - 0xDC00) + 0x10000)

/-- A unit in a document. -/
def bytes (u : Unit16) : Input :=
  [byte u.first.char, byte u.second.char, byte u.third.char, byte u.fourth.char]

theorem encode_text (u : Unit16) : Utf8.encode u.text = u.bytes := by
  rw [text, Utf8.encode_cons_of_ascii u.first.ascii, Utf8.encode_cons_of_ascii u.second.ascii,
    Utf8.encode_cons_of_ascii u.third.ascii, Utf8.encode_cons_of_ascii u.fourth.ascii]
  rfl

theorem hexUnit_bytes (u : Unit16) (rest : Input) : hexUnit (u.bytes ++ rest) = .ok (u.value, rest) := by
  show hexUnit (_ :: _ :: _ :: _ :: rest) = _
  rw [hexUnit, u.first.value_eq, u.second.value_eq, u.third.value_eq, u.fourth.value_eq]
  rfl

theorem escape_bytes (u : Unit16) (rest : Input) :
    escape (byte 'u' :: (u.bytes ++ rest)) =
      if u.Trails then .error (.here .loneSurrogate rest)
      else if u.Leads then trailingUnit u.value rest
      else .ok (.ofNat u.value, rest) := by
  have hletter : shortEscape? (byte 'u') = none := rfl
  rw [escape, hletter]
  dsimp only
  rw [if_pos rfl, unicodeEscape, hexUnit_bytes, ok_bind]
  rfl

theorem trailingUnit_bytes (lead u : Unit16) (rest : Input) :
    trailingUnit lead.value (byte '\\' :: byte 'u' :: (u.bytes ++ rest)) =
      if u.Trails then .ok (lead.pair u, rest) else .error (.here .loneSurrogate rest) := by
  rw [trailingUnit, escapeByte, if_pos rfl, ok_bind, escapeByte, if_pos rfl, ok_bind, hexUnit_bytes, ok_bind]
  have houtside : (u.value < 0xDC00 ∨ 0xDFFF < u.value) ↔ ¬u.Trails := by
    unfold Trails
    omega
  dsimp only
  by_cases h : u.Trails
  · rw [if_neg (not_not_intro h ∘ houtside.mp), if_pos h]
    rfl
  · rw [if_pos (houtside.mpr h), if_neg h]

end Unit16

/-! ### Parts -/

/-- The letters that stand for a character behind a backslash. -/
def shortEscapes : List (Char × Char) :=
  [('"', '"'), ('\\', '\\'), ('/', '/'), ('b', '\x08'), ('f', '\x0c'), ('n', '\n'), ('r', '\r'), ('t', '\t')]

theorem shortEscape?_of_mem {letter c : Char} (h : (letter, c) ∈ shortEscapes) :
    letter.toNat < 0x80 ∧ byte letter ≠ byte 'u' ∧ shortEscape? (byte letter) = some c := by
  have hall : ∀ e ∈ shortEscapes, e.1.toNat < 0x80 ∧ byte e.1 ≠ byte 'u' ∧ shortEscape? (byte e.1) = some e.2 := by
    decide
  exact hall _ h

/-- A part of a string between its quotes. -/
inductive StringPart where
  /-- A character that stands for itself. -/
  | plain (c : Char) (quote : c ≠ '"') (slash : c ≠ '\\') (control : ¬c.toNat < 0x20)
  | letter (letter c : Char) (h : (letter, c) ∈ shortEscapes)
  | unit (u : Unit16)

namespace StringPart

/-- A part as it is written. -/
def text : StringPart → List Char
  | plain c .. => [c]
  | letter l .. => ['\\', l]
  | unit u => '\\' :: 'u' :: u.text

/-- The characters that the parts of a string stand for; none when there is half of a pair without the other. -/
def spelled? : List StringPart → Option (List Char)
  | [] => some []
  | plain c .. :: parts => (spelled? parts).map (c :: ·)
  | letter _ c _ :: parts => (spelled? parts).map (c :: ·)
  | unit u :: parts =>
    if u.Trails then none
    else if u.Leads then
      match parts with
      | unit v :: parts => if v.Trails then (spelled? parts).map (u.pair v :: ·) else none
      | _ => none
    else (spelled? parts).map (.ofNat u.value :: ·)

end StringPart

/-- The parts of a string and its closing quote in a document. -/
def restOfString (parts : List StringPart) (rest : Input) : Input :=
  Utf8.encode (parts.flatMap StringPart.text) ++ byte '"' :: rest

section
variable (parts : List StringPart) (rest : Input)

theorem restOfString_cons (part : StringPart) :
    restOfString (part :: parts) rest = Utf8.encode part.text ++ restOfString parts rest := by
  rw [restOfString, List.flatMap_cons, Utf8.encode_append, List.append_assoc]
  rfl

theorem restOfString_plain {c : Char} (quote : c ≠ '"') (slash : c ≠ '\\') (control : ¬c.toNat < 0x20) :
    restOfString (.plain c quote slash control :: parts) rest = Utf8.encodeChar c ++ restOfString parts rest := by
  rw [restOfString_cons, StringPart.text, Utf8.encode, List.flatMap_singleton]

theorem restOfString_letter {letter c : Char} (h : (letter, c) ∈ shortEscapes) :
    restOfString (.letter letter c h :: parts) rest = byte '\\' :: byte letter :: restOfString parts rest := by
  rw [restOfString_cons, StringPart.text, Utf8.encode_cons_of_ascii (by decide),
    Utf8.encode_cons_of_ascii (shortEscape?_of_mem h).1]
  rfl

theorem restOfString_unit (u : Unit16) :
    restOfString (.unit u :: parts) rest = byte '\\' :: byte 'u' :: (u.bytes ++ restOfString parts rest) := by
  rw [restOfString_cons, StringPart.text, Utf8.encode_cons_of_ascii (by decide), Utf8.encode_cons_of_ascii (by decide),
    u.encode_text]
  rfl

end

theorem plain_of_mem_encodeChar {c : Char} (hquote : c ≠ '"') (hslash : c ≠ '\\') (hcontrol : ¬c.toNat < 0x20)
    {b : UInt8} (hb : b ∈ Utf8.encodeChar c) : b ≠ byte '"' ∧ b ≠ byte '\\' ∧ ¬b < 0x20 := by
  rcases Utf8.mem_encodeChar hb with ⟨hascii, rfl⟩ | hhigh
  · refine ⟨fun heq => hquote (byte_injective hascii (by decide) heq),
      fun heq => hslash (byte_injective hascii (by decide) heq), fun hlt => hcontrol ?_⟩
    rw [UInt8.lt_iff_toNat_lt, toNat_byte hascii] at hlt
    exact hlt
  · rw [UInt8.le_iff_toNat_le] at hhigh
    change 128 ≤ b.toNat at hhigh
    refine ⟨?_, ?_, ?_⟩
    · rintro rfl
      exact absurd hhigh (by decide)
    · rintro rfl
      exact absurd hhigh (by decide)
    · rw [UInt8.lt_iff_toNat_lt]
      show ¬b.toNat < 32
      omega

/-! ### Reading -/

/-- What the bytes of a string are read as, whenever the bound is not too small. -/
def StringAnswers (input : Input) (answer : Option (List UInt8 × Input)) : Prop :=
  ∀ limit, input.length < limit → (stringBytesWithin limit input).toOption = answer

namespace StringAnswers
variable {input input' rest : Input} {answer : Option (List UInt8 × Input)}

theorem close : StringAnswers (byte '"' :: rest) (some ([], rest)) := by
  intro limit hlimit
  obtain ⟨limit, rfl⟩ := Nat.exists_eq_succ_of_ne_zero (Nat.ne_of_gt (Nat.zero_lt_of_lt hlimit))
  rw [stringBytesWithin, if_pos rfl]
  rfl

theorem escape {c : Char} (hc : Json.escape input' = .ok (c, input)) (hlength : input.length ≤ input'.length)
    (h : StringAnswers input answer) :
    StringAnswers (byte '\\' :: input') (answer.map fun (bytes, rest) => (Utf8.encodeChar c ++ bytes, rest)) := by
  intro limit hlimit
  obtain ⟨limit, rfl⟩ := Nat.exists_eq_succ_of_ne_zero (Nat.ne_of_gt (Nat.zero_lt_of_lt hlimit))
  rw [List.length_cons] at hlimit
  rw [stringBytesWithin, if_neg (by decide), if_pos rfl, hc, ok_bind]
  dsimp only
  rw [toOption_bind, h limit (by omega)]
  cases answer <;> rfl

theorem wrong {fault : Fault} (h : Json.escape input' = .error fault) : StringAnswers (byte '\\' :: input') none := by
  intro limit hlimit
  obtain ⟨limit, rfl⟩ := Nat.exists_eq_succ_of_ne_zero (Nat.ne_of_gt (Nat.zero_lt_of_lt hlimit))
  rw [stringBytesWithin, if_neg (by decide), if_pos rfl, h]
  rfl

theorem plain {front : List UInt8} (hfront : ∀ b ∈ front, b ≠ byte '"' ∧ b ≠ byte '\\' ∧ ¬b < 0x20)
    (h : StringAnswers input answer) :
    StringAnswers (front ++ input) (answer.map fun (bytes, rest) => (front ++ bytes, rest)) := by
  induction front with
  | nil => cases answer <;> exact h
  | cons b front ih =>
    obtain ⟨⟨hquote, hslash, hcontrol⟩, hmore⟩ := List.forall_mem_cons.mp hfront
    intro limit hlimit
    obtain ⟨limit, rfl⟩ := Nat.exists_eq_succ_of_ne_zero (Nat.ne_of_gt (Nat.zero_lt_of_lt hlimit))
    rw [List.cons_append, List.length_cons] at hlimit
    rw [List.cons_append, stringBytesWithin, if_neg hquote, if_neg hslash, if_neg hcontrol, toOption_bind,
      ih hmore limit (by omega)]
    cases answer <;> rfl

end StringAnswers

/-- A unit that has to be followed by another one is not, because something else than a unit comes next. -/
theorem trailingUnit_of_noUnit (lead : Nat) {parts : List StringPart} (h : ∀ u more, parts ≠ .unit u :: more)
    (rest : Input) : ∃ fault, trailingUnit lead (restOfString parts rest) = .error fault := by
  match parts with
  | [] =>
    refine ⟨.here .unexpectedEndOfEscape rest, ?_⟩
    show trailingUnit lead (byte '"' :: rest) = _
    rw [trailingUnit, escapeByte, if_neg (by decide)]
    rfl
  | .plain c quote slash control :: parts =>
    rw [restOfString_plain]
    cases hc : Utf8.encodeChar c with
    | nil => exact absurd hc (Utf8.encodeChar_ne_nil c)
    | cons b bytes =>
      have hb := plain_of_mem_encodeChar quote slash control (hc ▸ List.mem_cons_self)
      refine ⟨.here .unexpectedEndOfEscape (bytes ++ restOfString parts rest), ?_⟩
      rw [List.cons_append, trailingUnit, escapeByte, if_neg hb.2.1]
      rfl
  | .letter l c hl :: parts =>
    refine ⟨.here .unexpectedEndOfEscape (restOfString parts rest), ?_⟩
    rw [restOfString_letter, trailingUnit, escapeByte, if_pos rfl, ok_bind, escapeByte,
      if_neg (shortEscape?_of_mem hl).2.1]
    rfl
  | .unit u :: parts => exact absurd rfl (h u parts)

theorem stringAnswers_restOfString (parts : List StringPart) (rest : Input) :
    StringAnswers (restOfString parts rest) ((StringPart.spelled? parts).map fun cs => (Utf8.encode cs, rest)) := by
  -- Whatever stands behind a part, the bytes of its character come first.
  have hfront : ∀ {c : Char} (cs : Option (List Char)), (cs.map (c :: ·)).map (fun cs => (Utf8.encode cs, rest)) =
      (cs.map fun cs => (Utf8.encode cs, rest)).map fun (bytes, rest) => (Utf8.encodeChar c ++ bytes, rest) := by
    intro c cs
    cases cs <;> rfl
  fun_induction StringPart.spelled? parts with
  | case1 => exact .close
  | case2 c quote slash control parts ih =>
    rw [restOfString_plain, hfront]
    exact ih.plain fun b hb => plain_of_mem_encodeChar quote slash control hb
  | case3 l c hl parts ih =>
    rw [restOfString_letter, hfront]
    refine ih.escape ?_ (Nat.le_succ _)
    rw [escape, (shortEscape?_of_mem hl).2.2]
  | case4 u parts htrails =>
    rw [restOfString_unit]
    exact .wrong (by rw [u.escape_bytes, if_pos htrails])
  | case5 u htrails hleads v parts hv ih =>
    rw [restOfString_unit, hfront]
    refine ih.escape ?_ ?_
    · rw [u.escape_bytes, if_neg htrails, if_pos hleads, restOfString_unit, Unit16.trailingUnit_bytes, if_pos hv]
    · rw [restOfString_unit]
      simp only [List.length_cons, List.length_append]
      omega
  | case6 u htrails hleads v parts hv =>
    rw [restOfString_unit]
    exact .wrong (by
      rw [u.escape_bytes, if_neg htrails, if_pos hleads, restOfString_unit, Unit16.trailingUnit_bytes, if_neg hv])
  | case7 u parts htrails hleads hother =>
    obtain ⟨fault, hfault⟩ := trailingUnit_of_noUnit u.value (fun v more h => hother v more h) rest
    rw [restOfString_unit]
    exact .wrong (by rw [u.escape_bytes, if_neg htrails, if_pos hleads, hfault])
  | case8 u parts htrails hleads ih =>
    rw [restOfString_unit, hfront]
    refine ih.escape ?_ ?_
    · rw [u.escape_bytes, if_neg htrails, if_neg hleads]
    · simp only [List.length_cons, List.length_append]
      omega

/-- A string is read as what its parts stand for, if they stand for anything. -/
theorem stringText_restOfString (parts : List StringPart) (rest : Input) :
    (stringText (restOfString parts rest)).toOption =
      (StringPart.spelled? parts).map fun cs => (String.ofList cs, rest) := by
  rw [stringText, toOption_bind, stringAnswers_restOfString parts rest _ (Nat.lt_succ_self _), Option.bind_map]
  cases StringPart.spelled? parts with
  | none => rfl
  | some cs =>
    rw [Option.bind_some, Function.comp_apply]
    dsimp only
    rw [Utf8.decodePrefix_encode]
    rfl

/-! ### Skipping -/

namespace Skip

/-- The rest of a string is passed over, whenever the bound is not too small. -/
def PassesString (input rest : Input) : Prop :=
  ∀ limit, input.length < limit → stringWithin limit input = .ok rest

theorem PassesString.plain {front : List UInt8} {input rest : Input}
    (hfront : ∀ b ∈ front, b ≠ byte '"' ∧ b ≠ byte '\\' ∧ ¬b < 0x20) (h : PassesString input rest) :
    PassesString (front ++ input) rest := by
  induction front with
  | nil => exact h
  | cons b front ih =>
    obtain ⟨⟨hquote, hslash, hcontrol⟩, hmore⟩ := List.forall_mem_cons.mp hfront
    intro limit hlimit
    obtain ⟨limit, rfl⟩ := Nat.exists_eq_succ_of_ne_zero (Nat.ne_of_gt (Nat.zero_lt_of_lt hlimit))
    rw [List.cons_append, List.length_cons] at hlimit
    rw [List.cons_append, stringWithin, if_neg hquote, if_neg hslash, if_neg hcontrol, ih hmore limit (by omega)]

theorem PassesString.escape {input input' rest : Input} (hescape : Skip.escape input' = .ok input)
    (hlength : input.length ≤ input'.length) (h : PassesString input rest) :
    PassesString (byte '\\' :: input') rest := by
  intro limit hlimit
  obtain ⟨limit, rfl⟩ := Nat.exists_eq_succ_of_ne_zero (Nat.ne_of_gt (Nat.zero_lt_of_lt hlimit))
  rw [List.length_cons] at hlimit
  rw [stringWithin, if_neg (by decide), if_pos rfl, hescape, ok_bind, h limit (by omega)]

theorem escape_letter {letter c : Char} (h : (letter, c) ∈ shortEscapes) (rest : Input) :
    escape (byte letter :: rest) = .ok rest := by
  have hall : ∀ e ∈ shortEscapes, byte e.1 = byte '"' ∨ byte e.1 = byte '\\' ∨ byte e.1 = byte '/' ∨ byte e.1 = byte 'b' ∨
      byte e.1 = byte 'f' ∨ byte e.1 = byte 'n' ∨ byte e.1 = byte 'r' ∨ byte e.1 = byte 't' := by decide
  rw [escape.eq_def]
  exact if_pos (hall _ h)

theorem escape_unit (u : Unit16) (rest : Input) : escape (byte 'u' :: (u.bytes ++ rest)) = .ok rest := by
  rw [escape.eq_def]
  dsimp only
  rw [if_neg (by decide), if_pos rfl]
  show (if (hexDigit? (byte u.first.char)).isSome ∧ (hexDigit? (byte u.second.char)).isSome ∧
    (hexDigit? (byte u.third.char)).isSome ∧ (hexDigit? (byte u.fourth.char)).isSome then Except.ok rest else _) = _
  rw [u.first.value_eq, u.second.value_eq, u.third.value_eq, u.fourth.value_eq]
  exact if_pos ⟨rfl, rfl, rfl, rfl⟩

theorem string_restOfString (parts : List StringPart) (rest : Input) : string (restOfString parts rest) = .ok rest := by
  have passes : PassesString (restOfString parts rest) rest := by
    induction parts with
    | nil =>
      intro limit hlimit
      obtain ⟨limit, rfl⟩ := Nat.exists_eq_succ_of_ne_zero (Nat.ne_of_gt (Nat.zero_lt_of_lt hlimit))
      show stringWithin (limit + 1) (byte '"' :: rest) = _
      rw [stringWithin, if_pos rfl]
    | cons part parts ih =>
      cases part with
      | plain c quote slash control =>
        rw [restOfString_plain]
        exact ih.plain fun b hb => plain_of_mem_encodeChar quote slash control hb
      | letter l c hl =>
        rw [restOfString_letter]
        exact ih.escape (escape_letter hl _) (Nat.le_succ _)
      | unit u =>
        rw [restOfString_unit]
        refine ih.escape (escape_unit u _) ?_
        simp only [List.length_cons, List.length_append]
        omega
  exact passes _ (Nat.lt_succ_self _)

end Skip
end ClusterConsole.Json
