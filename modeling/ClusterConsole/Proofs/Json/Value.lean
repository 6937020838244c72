import ClusterConsole.Json.Value
import ClusterConsole.Proofs.Json.Number
import ClusterConsole.Proofs.Json.Text

/-! # Values as written

What is written for a string or an integer is read as that, also behind a colon or where there might be null. -/

namespace ClusterConsole.Json
open Ascii

/-! ### Scalars -/

theorem string_reads (s : String) : Reads string (writeString s) s := by
  intro rest _
  rw [encode_writeString, string, skipSpace_cons rfl]
  exact stringText_encode s rest

theorem value_reads_string (levels : Nat) (s : String) : Reads (value levels) (writeString s) (.text s) := by
  intro rest _
  rw [encode_writeString, value.eq_def, skipSpace_cons rfl]
  dsimp only
  rw [if_neg (by decide), if_neg (by decide), if_neg (by decide), if_neg (by decide), if_pos rfl, stringText_encode,
    ok_bind]

section
variable {c : Char} {more : List Char}

theorem value_of_startsNumber (levels : Nat) (hc : StartsNumber c) (rest : Input) :
    value levels (Utf8.encode (c :: more) ++ rest) = (do
      let (n, rest) ← number (Utf8.encode (c :: more) ++ rest)
      .ok (.number n, rest)) := by
  have hfirst : byte c = byte '-' ∨ isDigit (byte c) = true := hc.imp (congrArg byte) isDigit_byte
  rw [Utf8.encode_cons_of_ascii hc.toNat_lt, List.cons_append, value.eq_def, skipSpace_cons hc.isSpace_byte]
  dsimp only
  rw [if_neg (hc.byte_ne (by decide) (by decide) rfl), if_neg (hc.byte_ne (by decide) (by decide) rfl),
    if_neg (hc.byte_ne (by decide) (by decide) rfl), if_pos hfirst]

theorem value_reads_number (levels : Nat) (hc : StartsNumber c) {n : Number} (h : Reads number (c :: more) n) :
    Reads (value levels) (c :: more) (.number n) := by
  intro rest hrest
  rw [value_of_startsNumber levels hc, h rest hrest, ok_bind]

theorem value_refuses_number (levels : Nat) (hc : StartsNumber c) {cause : Cause}
    (h : Refuses number (c :: more) cause) : Refuses (value levels) (c :: more) cause := by
  intro rest hrest
  obtain ⟨left, hleft⟩ := h rest hrest
  refine ⟨left, ?_⟩
  rw [value_of_startsNumber levels hc, hleft]
  rfl

end

theorem value_reads_integer (levels : Nat) {n : Int} (h : (Number.integer n).Bounded) :
    Reads (value levels) (Decimal.integer n) (.number (.integer n)) := by
  obtain ⟨c, more, hcons, hc⟩ := exists_integer_eq_cons n
  have hread := number_reads h
  rw [hcons] at hread ⊢
  exact value_reads_number levels hc hread

/-! ### Members -/

section
variable {α : Type} {read : Input → Except Fault (α × Input)} {text : List Char} {x : α}

/-- What is not written like null is read as what it is. -/
theorem Reads.optional {c : Char} {more : List Char} (h : Reads read (c :: more) x) (hascii : c.toNat < 0x80)
    (hspace : isSpace (byte c) = false) (hnull : byte c ≠ byte 'n') : Reads (optional read) (c :: more) (some x) := by
  intro rest hrest
  have hread := h rest hrest
  rw [Utf8.encode_cons_of_ascii hascii, List.cons_append] at hread ⊢
  rw [Json.optional, skipSpace_cons hspace]
  dsimp only
  rw [if_neg hnull, hread, ok_bind]

theorem colon_cons (rest : Input) : colon (byte ':' :: rest) = .ok rest := by
  rw [colon, skipSpace_cons rfl]
  rfl

theorem Reads.colon (h : Reads read text x) : Reads (fun input => do read (← Json.colon input)) (':' :: text) x := by
  intro rest hrest
  rw [Utf8.encode_cons_of_ascii (by decide), List.cons_append]
  dsimp only
  rw [colon_cons, ok_bind, h rest hrest]

theorem Reads.map {β : Type} (h : Reads read text x) (f : α → β) :
    Reads (fun input => do
      let (y, rest) ← read input
      .ok (f y, rest)) text (f x) := by
  intro rest hrest
  dsimp only
  rw [h rest hrest, ok_bind]

theorem Refuses.colon {cause : Cause} (h : Refuses read text cause) :
    Refuses (fun input => do read (← Json.colon input)) (':' :: text) cause := by
  intro rest hrest
  obtain ⟨left, hleft⟩ := h rest hrest
  refine ⟨left, ?_⟩
  rw [Utf8.encode_cons_of_ascii (by decide), List.cons_append]
  dsimp only
  rw [colon_cons, ok_bind, hleft]

theorem Refuses.map {β : Type} {cause : Cause} (h : Refuses read text cause) (f : α → β) :
    Refuses (fun input => do
      let (y, rest) ← read input
      .ok (f y, rest)) text cause := by
  intro rest hrest
  obtain ⟨left, hleft⟩ := h rest hrest
  refine ⟨left, ?_⟩
  dsimp only
  rw [hleft]
  rfl

end

end ClusterConsole.Json
