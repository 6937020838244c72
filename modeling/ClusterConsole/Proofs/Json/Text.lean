import ClusterConsole.Json.Writer
import ClusterConsole.Proofs.Json.Spelling

/-! # Strings as written

A string is read from the form in which it is written: what is escaped comes back from its escape, and everything else
stands for itself. -/

namespace ClusterConsole.Json
open Ascii

theorem hexDigit?_digitChar {n : Nat} (h : n < 16) :
    (Nat.digitChar n).toNat < 0x80 ∧ hexDigit? (byte (Nat.digitChar n)) = some n := by
  have hall : ∀ n < 16, (Nat.digitChar n).toNat < 0x80 ∧ hexDigit? (byte (Nat.digitChar n)) = some n := by decide
  exact hall n h

/-- The digit of a number below sixteen. -/
def HexDigit.ofNat (n : Nat) (h : n < 16) : HexDigit :=
  ⟨Nat.digitChar n, n, (hexDigit?_digitChar h).1, (hexDigit?_digitChar h).2⟩

/-- The unit of a control. -/
def Unit16.ofControl (n : Nat) (h : n < 0x20) : Unit16 :=
  ⟨.ofNat 0 (by decide), .ofNat 0 (by decide), .ofNat (n / 16) (by omega), .ofNat (n % 16) (by omega)⟩

theorem Unit16.value_ofControl {n : Nat} (h : n < 0x20) : (ofControl n h).value = n := by
  show ((0 * 16 + 0) * 16 + n / 16) * 16 + n % 16 = n
  omega

/-- A character is written with a letter after a backslash, by its number, or as it is. -/
theorem escaped_cases (c : Char) :
    (∃ letter : Char, (letter, c) ∈ shortEscapes ∧ escaped c = ['\\', letter]) ∨
      (c.toNat < 0x20 ∧ escaped c = '\\' :: 'u' :: unitDigits c.toNat) ∨
      (c ≠ '"' ∧ c ≠ '\\' ∧ ¬c.toNat < 0x20 ∧ escaped c = [c]) := by
  unfold escaped
  split
  · rename_i hc
    exact Or.inl ⟨'"', by rw [hc]; decide, rfl⟩
  rename_i hquote
  split
  · rename_i hc
    exact Or.inl ⟨'\\', by rw [hc]; decide, rfl⟩
  rename_i hslash
  split
  · rename_i hc
    exact Or.inl ⟨'b', by rw [hc]; decide, rfl⟩
  split
  · rename_i hc
    exact Or.inl ⟨'t', by rw [hc]; decide, rfl⟩
  split
  · rename_i hc
    exact Or.inl ⟨'n', by rw [hc]; decide, rfl⟩
  split
  · rename_i hc
    exact Or.inl ⟨'f', by rw [hc]; decide, rfl⟩
  split
  · rename_i hc
    exact Or.inl ⟨'r', by rw [hc]; decide, rfl⟩
  split
  · rename_i hcontrol
    exact Or.inr (Or.inl ⟨hcontrol, rfl⟩)
  · rename_i hcontrol
    exact Or.inr (Or.inr ⟨hquote, hslash, hcontrol, rfl⟩)

/-- A character is written as a part of a string that stands for it. -/
theorem exists_part_of_escaped (c : Char) : ∃ part : StringPart, part.text = escaped c ∧
    ∀ parts, StringPart.spelled? (part :: parts) = (StringPart.spelled? parts).map (c :: ·) := by
  rcases escaped_cases c with ⟨letter, hletter, htext⟩ | ⟨hcontrol, htext⟩ | ⟨hquote, hslash, hcontrol, htext⟩
  · exact ⟨.letter letter c hletter, htext.symm, fun _ => rfl⟩
  · have hvalue := Unit16.value_ofControl hcontrol
    refine ⟨.unit (.ofControl c.toNat hcontrol), htext.symm, fun parts => ?_⟩
    rw [StringPart.spelled?.eq_def]
    dsimp only
    rw [if_neg (by unfold Unit16.Trails; omega), if_neg (by unfold Unit16.Leads; omega), hvalue, Char.ofNat_toNat]
  · exact ⟨.plain c hquote hslash hcontrol, htext.symm, fun _ => rfl⟩

/-- A text is written as parts that stand for it. -/
theorem exists_parts_of_escaped (text : List Char) : ∃ parts : List StringPart,
    parts.flatMap StringPart.text = text.flatMap escaped ∧ StringPart.spelled? parts = some text := by
  induction text with
  | nil => exact ⟨[], rfl, rfl⟩
  | cons c text ih =>
    obtain ⟨part, hpart, hspelled⟩ := exists_part_of_escaped c
    obtain ⟨parts, hparts, hmore⟩ := ih
    refine ⟨part :: parts, ?_, ?_⟩
    · rw [List.flatMap_cons, List.flatMap_cons, hpart, hparts]
    · rw [hspelled, hmore, Option.map_some]

/-- A string is read from the text between its quotes. -/
theorem stringText_encode (s : String) (rest : Input) :
    stringText (Utf8.encode (s.toList.flatMap escaped) ++ byte '"' :: rest) = .ok (s, rest) := by
  obtain ⟨parts, htext, hspelled⟩ := exists_parts_of_escaped s.toList
  have hread := stringText_restOfString parts rest
  rw [restOfString, htext, hspelled, Option.map_some, String.ofList_toList] at hread
  exact toOption_eq_some_iff.mp hread

theorem encode_writeString (s : String) (rest : Input) : Utf8.encode (writeString s) ++ rest =
    byte '"' :: (Utf8.encode (s.toList.flatMap escaped) ++ byte '"' :: rest) := by
  rw [writeString, Utf8.encode_cons_of_ascii (by decide), Utf8.encode_append, List.cons_append, List.append_assoc]
  rfl

end ClusterConsole.Json
