import Mathlib.Data.List.Induction
import ClusterConsole.Number.Decimal
import ClusterConsole.Proofs.Text.Ascii

/-! # Whole numbers and their digits

The digits of a number denote it, also with zeros in front; without such zeros no other digits do. The texts that are
read as numbers are lists of digits. -/

namespace ClusterConsole.Decimal

/-! ### Digits of a number -/

theorem isDigit_of_mem_digits {n : Nat} {c : Char} (h : c ∈ digits n) : c.isDigit :=
  Nat.isDigit_of_mem_toDigits (by omega) (by omega) h

section
variable {width n : Nat}

theorem isDigit_padded (width n : Nat) : ∀ c ∈ padded width n, c.isDigit := by
  intro c h
  rcases List.mem_append.mp h with hzero | hdigit
  · rw [List.eq_of_mem_replicate hzero]
    rfl
  · exact isDigit_of_mem_digits hdigit

theorem length_digits_le (hwidth : 0 < width) (h : n < Nat.pow 10 width) : (digits n).length ≤ width :=
  (Nat.length_toDigits_le_iff (by decide) hwidth).mpr h

theorem length_padded (hwidth : 0 < width) (h : n < Nat.pow 10 width) : (padded width n).length = width := by
  rw [padded, List.length_append, List.length_replicate]
  exact Nat.sub_add_cancel (length_digits_le hwidth h)

theorem length_padded_le {least : Nat} (hleast : least ≤ width) (hwidth : 0 < width) (h : n < Nat.pow 10 width) :
    (padded least n).length ≤ width := by
  have hdigits := length_digits_le hwidth h
  rw [padded, List.length_append, List.length_replicate]
  omega

theorem length_integer_le (hwidth : 0 < width) {i : Int} (h : i.natAbs < Nat.pow 10 width) :
    (integer i).length ≤ width + 1 := by
  have hdigits := length_digits_le hwidth h
  unfold integer
  split
  · exact Nat.succ_le_succ hdigits
  · exact Nat.le_succ_of_le hdigits

theorem ofDigitChars_padded : Nat.ofDigitChars 10 (padded width n) 0 = n := by
  rw [padded, Nat.ofDigitChars_append, Nat.ofDigitChars_replicate_zero, Nat.mul_zero]
  exact Nat.ofDigitChars_ten_toDigits

end

theorem sub_lt_ten_of_isDigit {c : Char} (h : c.isDigit) : c.toNat - '0'.toNat < 10 :=
  Nat.lt_of_le_of_lt (Nat.sub_le_sub_right (Ascii.bounds_of_isDigit h).2 48) (by decide)

theorem digits_of_isDigit {c : Char} (h : c.isDigit) : digits (c.toNat - '0'.toNat) = [c] := by
  have hten := sub_lt_ten_of_isDigit h
  rw [digits, Nat.toDigits_of_lt_base hten, List.singleton_inj, ← Char.toNat_inj, Nat.toNat_digitChar_of_lt_ten hten]
  exact Nat.add_sub_cancel' (Ascii.bounds_of_isDigit h).1

/-- Digits are those of the number that they denote unless there is a zero in front of others. -/
theorem digits_ofDigitChars {ds : List Char} (hne : ds ≠ []) (hdigit : ∀ c ∈ ds, c.isDigit)
    (hzero : ds.head? = some '0' → ds = ['0']) : digits (Nat.ofDigitChars 10 ds 0) = ds := by
  induction ds using List.reverseRecOn with
  | nil => exact absurd rfl hne
  | append_singleton front c ih =>
    have hc : c.isDigit := hdigit c (List.mem_append_right front List.mem_cons_self)
    rw [Nat.ofDigitChars_append, Nat.ofDigitChars_cons, Nat.ofDigitChars_nil]
    by_cases hfront : front = []
    · rw [hfront, Nat.ofDigitChars_nil, Nat.mul_zero, Nat.zero_add, digits_of_isDigit hc, List.nil_append]
    · have hhead : front.head? ≠ some '0' := by
        intro h
        have hlength := congrArg List.length (hzero (by rw [List.head?_append, h, Option.some_or]))
        rw [List.length_append] at hlength
        exact hfront (List.length_eq_zero_iff.mp (Nat.succ.inj hlength))
      have hdigits := ih hfront (fun d hd => hdigit d (List.mem_append_left [c] hd)) fun h => absurd h hhead
      have hpos : 0 < Nat.ofDigitChars 10 front 0 := by
        refine Nat.pos_of_ne_zero fun h => hhead ?_
        rw [← hdigits, h]
        rfl
      have hsplit := Nat.toDigits_append_toDigits (by decide : 1 < 10) hpos (sub_lt_ten_of_isDigit hc)
      rw [digits, ← hsplit]
      exact congr (congrArg _ hdigits) (digits_of_isDigit hc)

/-- Only zero begins with a zero. -/
theorem exists_digits_eq_cons (n : Nat) : ∃ c ds, digits n = c :: ds ∧ (c = '0' → n = 0 ∧ ds = []) := by
  induction n using Nat.strongRecOn with
  | ind n ih =>
    rw [digits, Nat.toDigits_eq_if (by omega)]
    split
    · rename_i hn
      refine ⟨n.digitChar, [], rfl, fun h => ⟨?_, rfl⟩⟩
      have hvalue := Nat.toNat_digitChar_sub_48_of_lt_ten hn
      rw [h] at hvalue
      exact hvalue.symm
    · obtain ⟨c, ds, hds, hc⟩ := ih (n / 10) (by omega)
      rw [digits] at hds
      refine ⟨c, ds ++ [Nat.digitChar (n % 10)], by rw [hds]; rfl, fun h => ?_⟩
      have := (hc h).1
      omega

theorem digits_eq_of_head {n : Nat} (h : (digits n).head? = some '0') : digits n = ['0'] := by
  obtain ⟨c, ds, hds, hzero⟩ := exists_digits_eq_cons n
  rw [hds] at h ⊢
  obtain rfl := Option.some.inj h
  rw [(hzero rfl).2]

/-- Digits behind a number make it no smaller. -/
theorem le_ofDigitChars (ds : List Char) (n : Nat) : n ≤ Nat.ofDigitChars 10 ds n := by
  have hvalue : Nat.ofDigitChars 10 ds n = Nat.pow 10 ds.length * n + Nat.ofDigitChars 10 ds 0 :=
    Nat.ofDigitChars_eq_ofDigitChars_zero
  have hpow : n ≤ Nat.pow 10 ds.length * n := Nat.le_mul_of_pos_left n (Nat.pow_pos (by decide))
  omega

/-! ### Order -/

section
variable {ds es : List Char}

theorem ofDigitChars_lt (hds : ∀ c ∈ ds, c.isDigit) : Nat.ofDigitChars 10 ds 0 < Nat.pow 10 ds.length := by
  induction ds with
  | nil => decide
  | cons c ds ih =>
    obtain ⟨hc, hmore⟩ := List.forall_mem_cons.mp hds
    have hten := sub_lt_ten_of_isDigit hc
    have hlt := ih hmore
    have hvalue : Nat.ofDigitChars 10 ds (c.toNat - '0'.toNat) =
        Nat.pow 10 ds.length * (c.toNat - '0'.toNat) + Nat.ofDigitChars 10 ds 0 := Nat.ofDigitChars_eq_ofDigitChars_zero
    rw [Nat.ofDigitChars_cons, Nat.mul_zero, Nat.zero_add, hvalue]
    calc Nat.pow 10 ds.length * (c.toNat - '0'.toNat) + Nat.ofDigitChars 10 ds 0
        < Nat.pow 10 ds.length * (c.toNat - '0'.toNat + 1) := by rw [Nat.mul_succ]; omega
      _ ≤ Nat.pow 10 ds.length * 10 := Nat.mul_le_mul_left _ hten

/-- Of two texts that begin with as many digits, the one that begins with the smaller number comes first. -/
theorem append_lt_append (hlength : ds.length = es.length) (hds : ∀ c ∈ ds, c.isDigit) (hes : ∀ c ∈ es, c.isDigit)
    (h : Nat.ofDigitChars 10 ds 0 < Nat.ofDigitChars 10 es 0) (rest rest' : List Char) : ds ++ rest < es ++ rest' := by
  induction ds generalizing es with
  | nil =>
    obtain rfl := List.length_eq_zero_iff.mp hlength.symm
    exact absurd h (Nat.lt_irrefl _)
  | cons c ds ih =>
    match es, hlength with
    | d :: es, hlength =>
      obtain ⟨hc, hmore⟩ := List.forall_mem_cons.mp hds
      obtain ⟨hd, hmore'⟩ := List.forall_mem_cons.mp hes
      have hlength' : ds.length = es.length := Nat.succ.inj hlength
      have hvalue : ∀ first, Nat.ofDigitChars 10 ds first =
          Nat.pow 10 ds.length * first + Nat.ofDigitChars 10 ds 0 := fun _ => Nat.ofDigitChars_eq_ofDigitChars_zero
      have hvalue' : ∀ first, Nat.ofDigitChars 10 es first =
          Nat.pow 10 ds.length * first + Nat.ofDigitChars 10 es 0 := by
        rw [hlength']
        exact fun _ => Nat.ofDigitChars_eq_ofDigitChars_zero
      rw [Nat.ofDigitChars_cons, Nat.ofDigitChars_cons, Nat.mul_zero, Nat.zero_add, Nat.zero_add, hvalue, hvalue'] at h
      rw [List.cons_append, List.cons_append, List.cons_lt_cons_iff, Char.lt_def, UInt32.lt_iff_toNat_lt]
      change c.toNat < d.toNat ∨ _
      have hlow := (Ascii.bounds_of_isDigit hc).1
      have hlow' := (Ascii.bounds_of_isDigit hd).1
      by_cases heq : c = d
      · subst heq
        exact .inr ⟨rfl, ih hlength' hmore hmore' (by omega)⟩
      · -- A smaller first digit cannot be made up for by those behind it.
        refine .inl (Nat.lt_of_not_le fun hle => ?_)
        have hne : c.toNat ≠ d.toNat := fun htoNat => heq (Char.toNat_inj.mp htoNat)
        have hgap : d.toNat - '0'.toNat + 1 ≤ c.toNat - '0'.toNat := by
          show d.toNat - 48 + 1 ≤ c.toNat - 48
          omega
        have hmul := Nat.mul_le_mul_left (Nat.pow 10 ds.length) hgap
        have hlt' := hlength' ▸ ofDigitChars_lt hmore'
        rw [Nat.mul_succ] at hmul
        omega

theorem padded_append_lt {width m n : Nat} (hwidth : 0 < width) (h : m < n) (hn : n < Nat.pow 10 width)
    (rest rest' : List Char) : padded width m ++ rest < padded width n ++ rest' := by
  refine append_lt_append ?_ (isDigit_padded width m) (isDigit_padded width n) ?_ rest rest'
  · rw [length_padded hwidth (Nat.lt_trans h hn), length_padded hwidth hn]
  · rwa [ofDigitChars_padded, ofDigitChars_padded]

end

/-! ### Numbers of digits -/

theorem natural?_eq_some_iff {digits : List Char} {n : Nat} : natural? digits = some n ↔
    digits ≠ [] ∧ (∀ c ∈ digits, c.isDigit) ∧ Nat.ofDigitChars 10 digits 0 = n := by
  have hdigits : digits.all isDigit = true ↔ ∀ c ∈ digits, c.isDigit := List.all_eq_true
  have hvalue : ofDigits digits = Nat.ofDigitChars 10 digits 0 := Nat.ofDigitChars_eq_foldl.symm
  rw [natural?, hvalue]
  constructor
  · intro h
    split at h
    · rename_i hread
      exact ⟨hread.1, hdigits.mp hread.2, Option.some.inj h⟩
    · cases h
  · rintro ⟨hne, hall, rfl⟩
    rw [if_pos ⟨hne, hdigits.mpr hall⟩]

theorem word?_plus (digits : List Char) (n : UInt64) :
    word? ('+' :: digits) = some n ↔ natural? digits = some n.toNat := by
  show ((natural? digits).bind fun m => if m < Word.limit then some (UInt64.ofNat m) else none) = some n ↔ _
  constructor
  · intro h
    obtain ⟨m, hm, h⟩ := Option.bind_eq_some_iff.mp h
    split at h
    · rename_i hlt
      obtain rfl := Option.some.inj h
      rw [hm, UInt64.toNat_ofNat_of_lt' hlt]
    · cases h
  · intro h
    have hlt : n.toNat < Word.limit := n.toNat_lt
    rw [h, Option.bind_some, if_pos hlt, UInt64.ofNat_toNat]

theorem word?_unsigned {text : List Char} (h : ∀ digits, text ≠ '+' :: digits) :
    word? text = word? ('+' :: text) := by
  unfold word?
  refine congrArg (fun digits => (natural? digits).bind _) ?_
  split
  · exact absurd rfl (h _)
  · rfl

/-- A text denotes a number: it is a plus or nothing, and then digits of that value. -/
def Denotes (text : List Char) (n : Nat) : Prop :=
  ∃ plus digits, text = plus ++ digits ∧ (plus = [] ∨ plus = ['+']) ∧ digits ≠ [] ∧ (∀ c ∈ digits, c.isDigit) ∧
    Nat.ofDigitChars 10 digits 0 = n

theorem denotes_digits (n : Nat) : Denotes (digits n) n :=
  ⟨[], digits n, rfl, .inl rfl, Nat.toDigits_ne_nil, fun _ => isDigit_of_mem_digits, Nat.ofDigitChars_ten_toDigits⟩

section
variable {text : List Char}

/-- Digits do not begin with a plus. -/
theorem ne_plus_cons {digits : List Char} (h : ∀ c ∈ digits, c.isDigit) (rest : List Char) : digits ≠ '+' :: rest := by
  rintro rfl
  exact absurd (h '+' List.mem_cons_self) (by decide)

theorem word?_eq_some_iff {n : UInt64} : word? text = some n ↔ Denotes text n.toNat := by
  constructor
  · intro h
    by_cases hplus : ∃ digits, text = '+' :: digits
    · obtain ⟨digits, rfl⟩ := hplus
      exact ⟨['+'], digits, rfl, .inr rfl, natural?_eq_some_iff.mp ((word?_plus digits n).mp h)⟩
    · rw [word?_unsigned (not_exists.mp hplus)] at h
      exact ⟨[], text, rfl, .inl rfl, natural?_eq_some_iff.mp ((word?_plus text n).mp h)⟩
  · rintro ⟨plus, digits, rfl, hplus, hread⟩
    have hvalue := (word?_plus digits n).mpr (natural?_eq_some_iff.mpr hread)
    rcases hplus with rfl | rfl
    · rwa [List.nil_append, word?_unsigned (ne_plus_cons hread.2.1)]
    · exact hvalue

/-- A number that is too great for a word is read as none. -/
theorem word?_of_limit_le {n : Nat} (h : Denotes text n) (hn : Word.limit ≤ n) : word? text = none := by
  obtain ⟨plus, digits, rfl, hplus, hread⟩ := h
  have hplain : word? (plus ++ digits) = word? ('+' :: digits) := by
    rcases hplus with rfl | rfl
    · exact word?_unsigned (ne_plus_cons hread.2.1)
    · rfl
  refine Option.eq_none_iff_forall_ne_some.mpr fun m hm => ?_
  have hvalue := (word?_plus digits m).mp (hplain ▸ hm)
  rw [natural?_eq_some_iff.mpr hread] at hvalue
  exact absurd (Option.some.inj hvalue ▸ hn) (Nat.not_le_of_lt m.toNat_lt)

end

end ClusterConsole.Decimal
