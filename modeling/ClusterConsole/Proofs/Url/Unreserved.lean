import Mathlib.Data.List.Basic
import ClusterConsole.Proofs.Url.Percent

/-! # Texts that may stand anywhere in an address

Letters, digits and four marks have a meaning in no part of an address. A text of which every other byte is escaped may
stand anywhere, and it is read as the same bytes. -/

namespace ClusterConsole.Percent

/-- The characters that have no meaning in any part of an address. -/
def unreserved : List Char :=
  "ABCDEFGHIJKLMNOPQRSTUVWXYZabcdefghijklmnopqrstuvwxyz0123456789-._~".toList

/-- How a byte is written in any part of an address. -/
def writeByte (b : UInt8) : List Char :=
  if b ∈ Ascii.bytes unreserved then [Char.ofNat b.toNat] else escape b

/-- The bytes of a text as written in any part of an address. -/
def write (text : String) : List Char :=
  (Utf8.ofString text).flatMap writeByte

/-- Whether a character may have a meaning somewhere. -/
def reserved (c : Char) : Bool :=
  c ∉ unreserved

variable {c : Char}

theorem printable_of_unreserved (h : c ∈ unreserved) : 0x20 ≤ c.toNat ∧ c.toNat < 0x7F := by
  have hall : unreserved.all (fun c => 0x20 ≤ c.toNat ∧ c.toNat < 0x7F) = true := by decide +kernel
  exact of_decide_eq_true (List.all_eq_true.mp hall c h)

theorem writeByte_of_unreserved (h : c ∈ unreserved) : writeByte (Ascii.byte c) = [c] := by
  have hascii := (printable_of_unreserved h).2
  have hmem : Ascii.byte c ∈ Ascii.bytes unreserved := List.mem_map_of_mem h
  rw [writeByte, if_pos hmem, Ascii.toNat_byte (by omega), Char.ofNat_toNat]

/-- The bytes of a character that may have a meaning are all escaped. -/
theorem writeByte_of_reserved (h : c ∉ unreserved) {b : UInt8} (hb : b ∈ Utf8.encodeChar c) :
    writeByte b = escape b := by
  refine if_neg fun hmem => ?_
  obtain ⟨x, hx, rfl⟩ := List.mem_map.mp hmem
  have hascii := (printable_of_unreserved hx).2
  rcases Utf8.mem_encodeChar hb with ⟨hc, hbyte⟩ | hhigh
  · obtain rfl := Ascii.byte_injective (by omega) hc hbyte
    exact h hx
  · have hle := UInt8.le_iff_toNat_le.mp hhigh
    rw [Ascii.toNat_byte (by omega)] at hle
    exact absurd hle (by simp; omega)

/-- Byte for byte or character for character, a text is written alike. -/
theorem write_eq (text : String) : write text = encode reserved text.toList := by
  have hchar : ∀ c, (Utf8.encodeChar c).flatMap writeByte = encodeChar reserved c := by
    intro c
    by_cases h : c ∈ unreserved
    · obtain ⟨hlow, hhigh⟩ := printable_of_unreserved h
      have hfree : reserved c = false := by simp [reserved, h]
      have hplain : ¬(0x7F ≤ c.toNat ∨ c.toNat < 0x20 ∨ reserved c = true) := by
        simp only [hfree, Bool.false_eq_true, or_false]
        omega
      rw [encodeChar, if_neg hplain, Utf8.encodeChar_of_ascii (by omega), List.flatMap_singleton,
        writeByte_of_unreserved h]
    · have hspecial : 0x7F ≤ c.toNat ∨ c.toNat < 0x20 ∨ reserved c = true := .inr (.inr (decide_eq_true h))
      rw [encodeChar, if_pos hspecial]
      exact List.flatMap_congr fun b hb => writeByte_of_reserved h hb
  rw [write, Utf8.ofString, Utf8.encode, List.flatMap_assoc, encode]
  exact List.flatMap_congr fun c _ => hchar c

theorem write_eq_nil {text : String} (h : write text = []) : text = "" := by
  rw [write_eq] at h
  exact String.toList_eq_nil_iff.mp (encode_eq_nil h)

/-- A written text has no character that may have a meaning, but for the percent signs of its escapes. -/
theorem mem_write {text : String} (h : c ∈ write text) : c = '%' ∨ c ∈ unreserved := by
  have hdigits : hexDigits ⊆ unreserved := by decide +kernel
  rw [write_eq] at h
  rcases mem_encode h with ⟨-, hplain⟩ | rfl | hdigit
  · exact .inr (by simpa [reserved] using hplain)
  · exact .inl rfl
  · exact .inr (hdigits hdigit)

theorem bytes_of_write (text : String) : decode (Utf8.encode (write text)) = Utf8.ofString text := by
  rw [write_eq]
  exact decode_encode (by decide +kernel) text.toList

end ClusterConsole.Percent
