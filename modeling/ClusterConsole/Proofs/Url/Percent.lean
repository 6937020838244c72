import ClusterConsole.Proofs.Text.Utf8
import ClusterConsole.Url.Percent

/-! # Percent encoding, what it keeps out and what it stands for

A character is written as it is or as the escapes of its bytes, and an escape is a percent sign and two digits. So of
the characters that have a meaning only the percent sign comes out of it, and only at the front of an escape. Where the
percent sign has a meaning itself, the written text is read as the bytes of the text. -/

namespace ClusterConsole.Percent

variable {special : Char → Bool}

/-- The digits that escapes are written in. -/
def hexDigits : List Char := "0123456789ABCDEF".toList

theorem hexDigit_mem {n : Nat} (h : n < 16) : hexDigit n ∈ hexDigits := by
  have hall : ∀ n < 16, hexDigit n ∈ hexDigits := by decide
  exact hall n h

theorem mem_escape {b : UInt8} {x : Char} (h : x ∈ escape b) : x = '%' ∨ x ∈ hexDigits := by
  have hb := b.toNat_lt
  simp only [escape, List.mem_cons, List.not_mem_nil, or_false] at h
  obtain rfl | rfl | rfl := h
  · exact Or.inl rfl
  · exact Or.inr (hexDigit_mem (by omega))
  · exact Or.inr (hexDigit_mem (by omega))

/-- A character is written as it is, or as escapes of which the first is that of one of its bytes. -/
theorem encodeChar_cases (special : Char → Bool) (c : Char) :
    (special c = false ∧ encodeChar special c = [c]) ∨
      ((0x7F ≤ c.toNat ∨ c.toNat < 0x20 ∨ special c) ∧
        ∃ b ∈ Utf8.encodeChar c, ∃ more, encodeChar special c = escape b ++ more) := by
  unfold encodeChar
  split
  · rename_i hescaped
    refine Or.inr ⟨hescaped, ?_⟩
    cases hbytes : Utf8.encodeChar c with
    | nil =>
      have hread := Utf8.decodePrefix_encodeChar_append c []
      rw [hbytes] at hread
      cases hread
    | cons b bytes => exact ⟨b, List.mem_cons_self, bytes.flatMap escape, List.flatMap_cons⟩
  · rename_i hplain
    simp only [not_or, Bool.not_eq_true] at hplain
    exact Or.inl ⟨hplain.2.2, rfl⟩

theorem encode_cons (special : Char → Bool) (c : Char) (text : List Char) :
    encode special (c :: text) = encodeChar special c ++ encode special text :=
  List.flatMap_cons

theorem mem_encode {text : List Char} {x : Char} (h : x ∈ encode special text) :
    (x ∈ text ∧ special x = false) ∨ x = '%' ∨ x ∈ hexDigits := by
  obtain ⟨c, hc, hx⟩ := List.mem_flatMap.mp h
  unfold encodeChar at hx
  split at hx
  · obtain ⟨b, -, hb⟩ := List.mem_flatMap.mp hx
    exact Or.inr (mem_escape hb)
  · rename_i hplain
    simp only [not_or, Bool.not_eq_true] at hplain
    obtain rfl := List.mem_singleton.mp hx
    exact Or.inl ⟨hc, hplain.2.2⟩

theorem encode_eq_nil {text : List Char} (h : encode special text = []) : text = [] := by
  cases text with
  | nil => rfl
  | cons c text =>
    rw [encode_cons] at h
    obtain ⟨hc, -⟩ := List.append_eq_nil_iff.mp h
    rcases encodeChar_cases special c with ⟨-, hplain⟩ | ⟨-, b, -, more, hescaped⟩
    · rw [hplain] at hc
      cases hc
    · rw [hescaped] at hc
      cases hc

/-! ### Percent signs -/

/-- A written text in which percent signs only begin escapes. -/
inductive Escaped : List Char → Prop
  | nil : Escaped []
  | plain {c : Char} {text : List Char} (h : c ≠ '%') (rest : Escaped text) : Escaped (c :: text)
  | escape {high low : Char} {text : List Char} (hhigh : high ∈ hexDigits) (hlow : low ∈ hexDigits)
      (rest : Escaped text) : Escaped ('%' :: high :: low :: text)

theorem Escaped.escapes (bytes : List UInt8) {text : List Char} (h : Escaped text) :
    Escaped (bytes.flatMap Percent.escape ++ text) := by
  induction bytes with
  | nil => exact h
  | cons b bytes ih =>
    have hb := b.toNat_lt
    exact .escape (hexDigit_mem (by omega)) (hexDigit_mem (by omega)) ih

theorem escaped_encode (hpercent : special '%' = true) (text : List Char) : Escaped (encode special text) := by
  induction text with
  | nil => exact .nil
  | cons c text ih =>
    rw [encode_cons, encodeChar]
    split
    · exact ih.escapes (Utf8.encodeChar c)
    · rename_i hplain
      simp only [not_or, Bool.not_eq_true] at hplain
      refine .plain ?_ ih
      rintro rfl
      exact absurd hpercent (by simp [hplain.2.2])

/-! ### Reading back -/

theorem hexDigit?_hexDigit {n : Nat} (h : n < 16) : Ascii.hexDigit? (Ascii.byte (hexDigit n)) = some n := by
  have hall : ∀ n < 16, Ascii.hexDigit? (Ascii.byte (hexDigit n)) = some n := by decide
  exact hall n h

theorem toNat_lt_of_mem_hexDigits {x : Char} (h : x ∈ hexDigits) : x.toNat < 0x80 := by
  have hall : hexDigits.all (fun x => x.toNat < 0x80) = true := by decide
  exact of_decide_eq_true (List.all_eq_true.mp hall x h)

theorem decode_cons_of_ne {a : UInt8} (h : a ≠ Ascii.byte '%') (rest : List UInt8) :
    decode (a :: rest) = a :: decode rest := by
  match rest with
  | [] => rfl
  | [_] => rfl
  | b :: c :: rest => rw [decode, if_neg h]

/-- An escape is read as its byte, whatever follows it. -/
theorem decode_escape_append (b : UInt8) (rest : List UInt8) :
    decode (Utf8.encode (escape b) ++ rest) = b :: decode rest := by
  have hb := b.toNat_lt
  have hhigh : b.toNat / 16 < 16 := by omega
  have hlow : b.toNat % 16 < 16 := by omega
  have hbytes : Utf8.encode (escape b) =
      [Ascii.byte '%', Ascii.byte (hexDigit (b.toNat / 16)), Ascii.byte (hexDigit (b.toNat % 16))] := by
    rw [escape, Utf8.encode_cons_of_ascii (by decide),
      Utf8.encode_cons_of_ascii (toNat_lt_of_mem_hexDigits (hexDigit_mem hhigh)),
      Utf8.encode_cons_of_ascii (toNat_lt_of_mem_hexDigits (hexDigit_mem hlow))]
    rfl
  have hvalue : UInt8.ofNat (b.toNat / 16 * 16 + b.toNat % 16) = b := by
    rw [Nat.div_add_mod', UInt8.ofNat_toNat]
  rw [hbytes]
  simp only [List.cons_append, List.nil_append]
  rw [decode, if_pos rfl, hexDigit?_hexDigit hhigh, hexDigit?_hexDigit hlow]
  dsimp only
  rw [hvalue]

/-- A plain character is read as its byte, whatever follows it. -/
theorem decode_plain_append {c : Char} (hascii : c.toNat < 0x80) (h : c ≠ '%') (rest : List UInt8) :
    decode (Utf8.encode [c] ++ rest) = Ascii.byte c :: decode rest := by
  have hne : Ascii.byte c ≠ Ascii.byte '%' := fun heq => h (Ascii.byte_injective hascii (by decide) heq)
  have hbytes : Utf8.encode [c] = [Ascii.byte c] := Utf8.encode_cons_of_ascii hascii []
  rw [hbytes]
  exact decode_cons_of_ne hne rest

theorem decode_escapes_append (bytes rest : List UInt8) :
    decode (Utf8.encode (bytes.flatMap escape) ++ rest) = bytes ++ decode rest := by
  induction bytes with
  | nil => rfl
  | cons b bytes ih =>
    rw [List.flatMap_cons, Utf8.encode_append, List.append_assoc, decode_escape_append, ih, List.cons_append]

/-- Where a percent sign is escaped, a written text is read as the bytes of the text. -/
theorem decode_encode (hpercent : special '%' = true) (text : List Char) :
    decode (Utf8.encode (encode special text)) = Utf8.encode text := by
  induction text with
  | nil => rfl
  | cons c text ih =>
    have hcons : Utf8.encode (c :: text) = Utf8.encodeChar c ++ Utf8.encode text := List.flatMap_cons
    rw [encode_cons, Utf8.encode_append, hcons, ← ih, encodeChar]
    split
    · exact decode_escapes_append (Utf8.encodeChar c) _
    · rename_i hplain
      simp only [not_or, Bool.not_eq_true] at hplain
      have hascii : c.toNat < 0x80 := by omega
      rw [Utf8.encodeChar_of_ascii hascii]
      refine decode_plain_append hascii ?_ _
      rintro rfl
      exact absurd hpercent (by simp [hplain.2.2])

end ClusterConsole.Percent
