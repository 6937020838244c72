import ClusterConsole.Proofs.Text.Ascii
import ClusterConsole.Text.Utf8

/-! # UTF-8 there and back

The bytes of a text are those of its UTF-8 form, and reading them gives the text again, whatever follows a
character. No other bytes are read as that text. -/

namespace ClusterConsole.Utf8

/-! ### The standard form -/

theorem toNat_lt (c : Char) : c.toNat < 0x110000 := by
  have h := c.valid
  unfold UInt32.isValidChar Nat.isValidChar at h
  unfold Char.toNat
  omega

theorem encodeChar_eq (c : Char) : encodeChar c = String.utf8EncodeChar c := by
  have hc := toNat_lt c
  unfold encodeChar String.utf8EncodeChar
  change c.toNat < 0x110000 at hc
  rw [show c.val.toNat = c.toNat from rfl]
  generalize c.toNat = n at hc
  dsimp only
  by_cases h1 : n < 0x80
  · rw [if_pos h1, if_pos (show n ≤ 0x7f by omega)]
  rw [if_neg h1, if_neg (show ¬n ≤ 0x7f by omega)]
  by_cases h2 : n < 0x800
  · rw [if_pos h2, if_pos (show n ≤ 0x7ff by omega), show n / 64 % 32 + 192 = 0xC0 + n / 0x40 by omega,
      show n % 64 + 128 = 0x80 + n % 0x40 by omega]
  rw [if_neg h2, if_neg (show ¬n ≤ 0x7ff by omega)]
  by_cases h3 : n < 0x10000
  · rw [if_pos h3, if_pos (show n ≤ 0xffff by omega), show n / 4096 % 16 + 224 = 0xE0 + n / 0x1000 by omega,
      show n / 64 % 64 + 128 = 0x80 + n / 0x40 % 0x40 by omega, show n % 64 + 128 = 0x80 + n % 0x40 by omega]
  rw [if_neg h3, if_neg (show ¬n ≤ 0xffff by omega), show n / 262144 % 8 + 240 = 0xF0 + n / 0x40000 by omega,
    show n / 4096 % 64 + 128 = 0x80 + n / 0x1000 % 0x40 by omega,
    show n / 64 % 64 + 128 = 0x80 + n / 0x40 % 0x40 by omega, show n % 64 + 128 = 0x80 + n % 0x40 by omega]

theorem ofString_eq (s : String) : ofString s = s.toUTF8.data.toList := by
  have h : s.toUTF8 = s.toList.utf8Encode := by
    rw [String.toUTF8_eq_toByteArray, ← String.toByteArray_ofList, String.ofList_toList]
  rw [h, List.utf8Encode, List.toList_data_toByteArray, ofString, encode]
  exact congrArg (s.toList.flatMap ·) (funext encodeChar_eq)

theorem ofString_injective {s t : String} (h : ofString s = ofString t) : s = t := by
  rw [ofString_eq, ofString_eq] at h
  exact String.toByteArray_inj.mp (ByteArray.ext (Array.toList_inj.mp h))

/-! ### Reading back -/

theorem scalar?_toNat {least : Nat} {c : Char} (h : least ≤ c.toNat) : scalar? least c.toNat = some c := by
  rw [scalar?, if_pos ⟨h, c.valid⟩, Char.ofNat_toNat]

theorem toNat_ofNat {n : Nat} (h : n < 0x100) : (UInt8.ofNat n).toNat = n := by
  rw [UInt8.toNat_ofNat']
  omega

theorem ofNat_lt_iff {n k : Nat} (hn : n < 0x100) (hk : k < 0x100) : UInt8.ofNat n < UInt8.ofNat k ↔ n < k := by
  rw [UInt8.lt_iff_toNat_lt, toNat_ofNat hn, toNat_ofNat hk]

theorem ofNat_le_iff {n k : Nat} (hn : n < 0x100) (hk : k < 0x100) : UInt8.ofNat n ≤ UInt8.ofNat k ↔ n ≤ k := by
  rw [UInt8.le_iff_toNat_le, toNat_ofNat hn, toNat_ofNat hk]

theorem tail?_ofNat {k : Nat} (h : k < 0x40) : tail? (.ofNat (0x80 + k)) = some k := by
  have hlow : (0x80 : UInt8) ≤ .ofNat (0x80 + k) := (ofNat_le_iff (n := 0x80) (by omega) (by omega)).mpr (by omega)
  have hhigh : UInt8.ofNat (0x80 + k) < 0xC0 := (ofNat_lt_iff (k := 0xC0) (by omega) (by omega)).mpr (by omega)
  rw [tail?, if_pos ⟨hlow, hhigh⟩, toNat_ofNat (by omega)]
  simp

theorem two?_ofNat {a b : Nat} {c : Char} (ha : a < 0x20) (hb : b < 0x40) (hc : a * 0x40 + b = c.toNat)
    (h : 0x80 ≤ c.toNat) : two? (.ofNat (0xC0 + a)) (.ofNat (0x80 + b)) = some c := by
  have hlow : (0xC0 : UInt8) ≤ .ofNat (0xC0 + a) := (ofNat_le_iff (n := 0xC0) (by omega) (by omega)).mpr (by omega)
  have hhigh : UInt8.ofNat (0xC0 + a) < 0xE0 := (ofNat_lt_iff (k := 0xE0) (by omega) (by omega)).mpr (by omega)
  rw [two?, if_pos ⟨hlow, hhigh⟩, tail?_ofNat hb, toNat_ofNat (by omega), Nat.add_sub_cancel_left]
  rw [Option.bind_eq_bind, Option.bind_some, hc]
  exact scalar?_toNat h

/-- A byte from `0xE0` on does not begin a character of two bytes. -/
theorem two?_eq_none {n : Nat} (h : 0xE0 ≤ n) (hn : n < 0x100) (b : UInt8) : two? (.ofNat n) b = none := by
  have hhigh : ¬UInt8.ofNat n < 0xE0 := fun h' => by
    have := (ofNat_lt_iff (k := 0xE0) hn (by omega)).mp h'
    omega
  rw [two?, if_neg fun h' => hhigh h'.2]

theorem three?_ofNat {a b d : Nat} {c : Char} (ha : a < 0x10) (hb : b < 0x40) (hd : d < 0x40)
    (hc : a * 0x1000 + b * 0x40 + d = c.toNat) (h : 0x800 ≤ c.toNat) :
    three? (.ofNat (0xE0 + a)) (.ofNat (0x80 + b)) (.ofNat (0x80 + d)) = some c := by
  have hlow : (0xE0 : UInt8) ≤ .ofNat (0xE0 + a) := (ofNat_le_iff (n := 0xE0) (by omega) (by omega)).mpr (by omega)
  have hhigh : UInt8.ofNat (0xE0 + a) < 0xF0 := (ofNat_lt_iff (k := 0xF0) (by omega) (by omega)).mpr (by omega)
  rw [three?, if_pos ⟨hlow, hhigh⟩, tail?_ofNat hb, tail?_ofNat hd, toNat_ofNat (by omega), Nat.add_sub_cancel_left]
  rw [Option.bind_eq_bind, Option.bind_some, Option.bind_some, hc]
  exact scalar?_toNat h

/-- A byte from `0xF0` on does not begin a character of three bytes. -/
theorem three?_eq_none {n : Nat} (h : 0xF0 ≤ n) (hn : n < 0x100) (b d : UInt8) : three? (.ofNat n) b d = none := by
  have hhigh : ¬UInt8.ofNat n < 0xF0 := fun h' => by
    have := (ofNat_lt_iff (k := 0xF0) hn (by omega)).mp h'
    omega
  rw [three?, if_neg fun h' => hhigh h'.2]

theorem four?_ofNat {a b d e : Nat} {c : Char} (ha : a < 0x10) (hb : b < 0x40) (hd : d < 0x40) (he : e < 0x40)
    (hc : a * 0x40000 + b * 0x1000 + d * 0x40 + e = c.toNat) (h : 0x10000 ≤ c.toNat) :
    four? (.ofNat (0xF0 + a)) (.ofNat (0x80 + b)) (.ofNat (0x80 + d)) (.ofNat (0x80 + e)) = some c := by
  have hlow : (0xF0 : UInt8) ≤ .ofNat (0xF0 + a) := (ofNat_le_iff (n := 0xF0) (by omega) (by omega)).mpr (by omega)
  rw [four?, if_pos hlow, tail?_ofNat hb, tail?_ofNat hd, tail?_ofNat he, toNat_ofNat (by omega),
    Nat.add_sub_cancel_left]
  rw [Option.bind_eq_bind, Option.bind_some, Option.bind_some, Option.bind_some, hc]
  exact scalar?_toNat h

/-- A byte from `0x80` on is no character of its own. -/
theorem not_ofNat_lt {n : Nat} (h : 0x80 ≤ n) (hn : n < 0x100) : ¬UInt8.ofNat n < 0x80 := fun h' => by
  have := (ofNat_lt_iff (k := 0x80) hn (by omega)).mp h'
  omega

theorem decodePrefix_encodeChar_append (c : Char) (rest : List UInt8) :
    decodePrefix (encodeChar c ++ rest) = (c :: (decodePrefix rest).1, (decodePrefix rest).2) := by
  have hc := toNat_lt c
  unfold encodeChar
  dsimp only
  split
  · rename_i h1
    have hlt : UInt8.ofNat c.toNat < 0x80 := (ofNat_lt_iff (k := 0x80) (by omega) (by omega)).mpr h1
    rw [List.singleton_append, decodePrefix.eq_def]
    dsimp only
    rw [if_pos hlt, toNat_ofNat (by omega), Char.ofNat_toNat]
  split
  · rw [List.cons_append, List.singleton_append, decodePrefix.eq_def]
    dsimp only
    rw [if_neg (not_ofNat_lt (by omega) (by omega)), two?_ofNat (c := c) (by omega) (by omega) (by omega) (by omega)]
  split
  · rw [List.cons_append, List.cons_append, List.singleton_append, decodePrefix.eq_def]
    dsimp only
    rw [if_neg (not_ofNat_lt (by omega) (by omega)), two?_eq_none (by omega) (by omega)]
    dsimp only
    rw [three?_ofNat (c := c) (by omega) (by omega) (by omega) (by omega) (by omega)]
  · rw [List.cons_append, List.cons_append, List.cons_append, List.singleton_append, decodePrefix.eq_def]
    dsimp only
    rw [if_neg (not_ofNat_lt (by omega) (by omega)), two?_eq_none (by omega) (by omega)]
    dsimp only
    rw [three?_eq_none (by omega) (by omega)]
    dsimp only
    rw [four?_ofNat (c := c) (by omega) (by omega) (by omega) (by omega) (by omega) (by omega)]

/-- The bytes of a text are read as this text, and nothing is left. -/
theorem decodePrefix_encode (text : List Char) : decodePrefix (encode text) = (text, []) := by
  induction text with
  | nil => rfl
  | cons c text ih =>
    rw [encode, List.flatMap_cons, decodePrefix_encodeChar_append]
    rw [encode] at ih
    rw [ih]

/-! ### The bytes of what is read -/

theorem scalar?_eq_some {least n : Nat} {c : Char} (h : scalar? least n = some c) : least ≤ n ∧ c.toNat = n := by
  unfold scalar? at h
  split at h
  · rename_i hn
    obtain rfl := Option.some.inj h
    exact ⟨hn.1, by rw [Char.ofNat, dif_pos hn.2]; rfl⟩
  · cases h

theorem tail?_eq_some {b : UInt8} {k : Nat} (h : tail? b = some k) : k < 0x40 ∧ b = .ofNat (0x80 + k) := by
  unfold tail? at h
  split at h
  · rename_i hb
    have hlow : 0x80 ≤ b.toNat := UInt8.le_iff_toNat_le.mp hb.1
    have hhigh : b.toNat < 0xC0 := UInt8.lt_iff_toNat_lt.mp hb.2
    obtain rfl := Option.some.inj h
    refine ⟨by omega, ?_⟩
    rw [Nat.add_sub_cancel' hlow, UInt8.ofNat_toNat]
  · cases h

theorem encodeChar_of_two? {a b : UInt8} {c : Char} (h : two? a b = some c) : encodeChar c = [a, b] := by
  unfold two? at h
  split at h
  · rename_i ha
    have hlow : 0xC0 ≤ a.toNat := UInt8.le_iff_toNat_le.mp ha.1
    have hhigh : a.toNat < 0xE0 := UInt8.lt_iff_toNat_lt.mp ha.2
    obtain ⟨k, hk, hscalar⟩ := Option.bind_eq_some_iff.mp h
    obtain ⟨hlt, rfl⟩ := tail?_eq_some hk
    obtain ⟨hleast, hc⟩ := scalar?_eq_some hscalar
    rw [encodeChar, hc]
    rw [if_neg (by omega), if_pos (by omega), show 0xC0 + ((a.toNat - 0xC0) * 0x40 + k) / 0x40 = a.toNat by omega,
      show 0x80 + ((a.toNat - 0xC0) * 0x40 + k) % 0x40 = 0x80 + k by omega, UInt8.ofNat_toNat]
  · cases h

theorem encodeChar_of_three? {a b d : UInt8} {c : Char} (h : three? a b d = some c) : encodeChar c = [a, b, d] := by
  unfold three? at h
  split at h
  · rename_i ha
    have hlow : 0xE0 ≤ a.toNat := UInt8.le_iff_toNat_le.mp ha.1
    have hhigh : a.toNat < 0xF0 := UInt8.lt_iff_toNat_lt.mp ha.2
    obtain ⟨k, hk, htail⟩ := Option.bind_eq_some_iff.mp h
    obtain ⟨l, hl, hscalar⟩ := Option.bind_eq_some_iff.mp htail
    obtain ⟨hklt, rfl⟩ := tail?_eq_some hk
    obtain ⟨hllt, rfl⟩ := tail?_eq_some hl
    obtain ⟨hleast, hc⟩ := scalar?_eq_some hscalar
    rw [encodeChar, hc]
    generalize hn : (a.toNat - 0xE0) * 0x1000 + k * 0x40 + l = n
    rw [if_neg (by omega), if_neg (by omega), if_pos (by omega), show 0xE0 + n / 0x1000 = a.toNat by omega,
      show 0x80 + n / 0x40 % 0x40 = 0x80 + k by omega, show 0x80 + n % 0x40 = 0x80 + l by omega, UInt8.ofNat_toNat]
  · cases h

theorem encodeChar_of_four? {a b d e : UInt8} {c : Char} (h : four? a b d e = some c) :
    encodeChar c = [a, b, d, e] := by
  unfold four? at h
  split at h
  · rename_i ha
    have hlow : 0xF0 ≤ a.toNat := UInt8.le_iff_toNat_le.mp ha
    obtain ⟨k, hk, htail⟩ := Option.bind_eq_some_iff.mp h
    obtain ⟨l, hl, htail⟩ := Option.bind_eq_some_iff.mp htail
    obtain ⟨m, hm, hscalar⟩ := Option.bind_eq_some_iff.mp htail
    obtain ⟨hklt, rfl⟩ := tail?_eq_some hk
    obtain ⟨hllt, rfl⟩ := tail?_eq_some hl
    obtain ⟨hmlt, rfl⟩ := tail?_eq_some hm
    obtain ⟨hleast, hc⟩ := scalar?_eq_some hscalar
    rw [encodeChar, hc]
    generalize hn : (a.toNat - 0xF0) * 0x40000 + k * 0x1000 + l * 0x40 + m = n
    rw [if_neg (by omega), if_neg (by omega), if_neg (by omega), show 0xF0 + n / 0x40000 = a.toNat by omega,
      show 0x80 + n / 0x1000 % 0x40 = 0x80 + k by omega, show 0x80 + n / 0x40 % 0x40 = 0x80 + l by omega,
      show 0x80 + n % 0x40 = 0x80 + m by omega, UInt8.ofNat_toNat]
  · cases h

theorem encodeChar_of_lt {a : UInt8} (h : a < 0x80) : encodeChar (Char.ofNat a.toNat) = [a] := by
  have hlt : a.toNat < 0x80 := UInt8.lt_iff_toNat_lt.mp h
  have hc : (Char.ofNat a.toNat).toNat = a.toNat := by
    rw [Char.ofNat, dif_pos (.inl (by omega))]
    rfl
  rw [encodeChar, hc, if_pos hlt, UInt8.ofNat_toNat]

/-- What is read of bytes, and the bytes that are left, are all of them. -/
theorem encode_decodePrefix (bytes : List UInt8) :
    encode (decodePrefix bytes).1 ++ (decodePrefix bytes).2 = bytes := by
  have step : ∀ {c : Char} {front more : List UInt8} {text : List Char} {rest : List UInt8},
      encodeChar c = front → decodePrefix more = (text, rest) →
        encode (decodePrefix more).1 ++ (decodePrefix more).2 = more → encode (c :: text) ++ rest = front ++ more := by
    intro c front more text rest hc hmore ih
    rw [hmore] at ih
    rw [encode, List.flatMap_cons, hc, List.append_assoc]
    exact congrArg (front ++ ·) ih
  fun_induction decodePrefix bytes with
  | case2 a _ ha _ _ hmore ih => exact step (encodeChar_of_lt ha) hmore ih
  | case4 _ _ _ _ _ hc _ _ hmore ih => exact step (encodeChar_of_two? hc) hmore ih
  | case6 _ _ _ _ _ _ _ hc _ _ hmore ih => exact step (encodeChar_of_three? hc) hmore ih
  | case8 _ _ _ _ _ _ _ _ _ hc _ _ hmore ih => exact step (encodeChar_of_four? hc) hmore ih
  | _ => rfl

/-- Bytes are a text exactly if they are its UTF-8 form. -/
theorem string?_eq_some_iff {bytes : List UInt8} {text : String} :
    string? bytes = some text ↔ bytes = ofString text := by
  unfold string? decode?
  constructor
  · intro h
    have hbytes := encode_decodePrefix bytes
    split at h
    · rename_i chars hchars
      rw [hchars, List.append_nil] at hbytes
      obtain rfl := Option.some.inj h
      rw [ofString, String.toList_ofList]
      exact hbytes.symm
    · cases h
  · rintro rfl
    rw [ofString, decodePrefix_encode]
    exact congrArg some String.ofList_toList

/-! ### ASCII -/

open Ascii

theorem encode_append (text more : List Char) : encode (text ++ more) = encode text ++ encode more :=
  List.flatMap_append

theorem encodeChar_of_ascii {c : Char} (h : c.toNat < 0x80) : encodeChar c = [byte c] := by
  unfold encodeChar
  exact if_pos h

theorem encode_cons_of_ascii {c : Char} (h : c.toNat < 0x80) (text : List Char) :
    encode (c :: text) = byte c :: encode text := by
  rw [encode, List.flatMap_cons, encodeChar_of_ascii h]
  rfl

theorem encode_cons_of_isDigit {c : Char} (h : c.isDigit) (text : List Char) :
    encode (c :: text) = byte c :: encode text :=
  encode_cons_of_ascii (Nat.lt_of_le_of_lt (bounds_of_isDigit h).2 (by decide)) text

theorem encodeChar_ne_nil (c : Char) : encodeChar c ≠ [] := by
  unfold encodeChar
  dsimp only
  split
  · exact List.cons_ne_nil _ _
  · split
    · exact List.cons_ne_nil _ _
    · split <;> exact List.cons_ne_nil _ _

/-- The bytes of a character beyond ASCII are none of ASCII. -/
theorem mem_encodeChar {c : Char} {b : UInt8} (h : b ∈ encodeChar c) : c.toNat < 0x80 ∧ b = byte c ∨ 0x80 ≤ b := by
  have hc := toNat_lt c
  have high : ∀ n, 0x80 ≤ n → n < 0x100 → 0x80 ≤ UInt8.ofNat n := by
    intro n hlow hn
    exact (ofNat_le_iff (n := 0x80) (by omega) hn).mpr hlow
  unfold encodeChar at h
  dsimp only at h
  split at h
  · rename_i hascii
    exact Or.inl ⟨hascii, List.mem_singleton.mp h⟩
  · refine Or.inr ?_
    split at h
    · simp only [List.mem_cons, List.not_mem_nil, or_false] at h
      rcases h with rfl | rfl <;> exact high _ (by omega) (by omega)
    · split at h
      · simp only [List.mem_cons, List.not_mem_nil, or_false] at h
        rcases h with rfl | rfl | rfl <;> exact high _ (by omega) (by omega)
      · simp only [List.mem_cons, List.not_mem_nil, or_false] at h
        rcases h with rfl | rfl | rfl | rfl <;> exact high _ (by omega) (by omega)

end ClusterConsole.Utf8
