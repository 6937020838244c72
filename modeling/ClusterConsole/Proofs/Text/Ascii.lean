import ClusterConsole.Text.Ascii

/-! # Bytes of ASCII characters -/

namespace ClusterConsole.Ascii

theorem toNat_byte {c : Char} (h : c.toNat < 0x80) : (byte c).toNat = c.toNat := by
  rw [byte, UInt8.toNat_ofNat']
  omega

theorem byte_injective {a b : Char} (ha : a.toNat < 0x80) (hb : b.toNat < 0x80) (h : byte a = byte b) : a = b := by
  have hnat := congrArg UInt8.toNat h
  rw [toNat_byte ha, toNat_byte hb] at hnat
  exact Char.toNat_inj.mp hnat

/-! ### Digits -/

theorem digit?_lt {b : UInt8} {d : Nat} (h : digit? b = some d) : d < 10 := by
  unfold digit? isDigit at h
  split at h
  · rename_i hb
    obtain rfl := Option.some.inj h
    have hle : b ≤ byte '9' := by
      rw [Bool.and_eq_true] at hb
      exact of_decide_eq_true hb.2
    have hnat : b.toNat ≤ 57 := UInt8.le_iff_toNat_le.mp hle
    show b.toNat - 48 < 10
    omega
  · cases h

theorem bounds_of_isDigit {c : Char} (h : c.isDigit) : 48 ≤ c.toNat ∧ c.toNat ≤ 57 := by
  unfold Char.isDigit at h
  simp only [Bool.and_eq_true, decide_eq_true_eq] at h
  exact ⟨UInt32.le_iff_toNat_le.mp h.1, UInt32.le_iff_toNat_le.mp h.2⟩

theorem isDigit_byte {c : Char} (h : c.isDigit) : isDigit (byte c) = true := by
  obtain ⟨hlow, hhigh⟩ := bounds_of_isDigit h
  have hbyte := toNat_byte (c := c) (by omega)
  unfold isDigit
  rw [Bool.and_eq_true, decide_eq_true_eq, decide_eq_true_eq, UInt8.le_iff_toNat_le, UInt8.le_iff_toNat_le, hbyte]
  exact ⟨hlow, hhigh⟩

theorem digit?_byte {c : Char} (h : c.isDigit) : digit? (byte c) = some (c.toNat - '0'.toNat) := by
  obtain ⟨-, hhigh⟩ := bounds_of_isDigit h
  rw [digit?, if_pos (isDigit_byte h), toNat_byte (by omega)]

theorem isDigit_of_digit?_eq_none {b : UInt8} (h : digit? b = none) : isDigit b = false := by
  unfold digit? at h
  split at h
  · cases h
  · rename_i hb
    exact Bool.eq_false_iff.mpr hb

theorem byte_ne_of_isDigit {c d : Char} (hc : c.isDigit) (hd : d.toNat < 0x80) (hdigit : d.isDigit = false) :
    byte c ≠ byte d := by
  intro heq
  have hascii := (bounds_of_isDigit hc).2
  obtain rfl := byte_injective (by omega) hd heq
  rw [hdigit] at hc
  cases hc

/-- No digit comes next. -/
def NoDigit (bytes : List UInt8) : Prop :=
  ∀ b ∈ bytes.head?, digit? b = none

end ClusterConsole.Ascii
