import ClusterConsole.Table.Row
import ClusterConsole.Proofs.Text.Utf8

/-! # Revisions as shown

Where a revision is cut is a place among its bytes: the one at which its eleventh character begins. No character is
split there, so it can always be cut, and what is shown can be said in characters. -/

namespace ClusterConsole

namespace Utf8

/-- A character begins where the bytes of those before it end. -/
theorem getElem?_starts (offset : Nat) (text : List Char) (n : Nat) : (starts offset text)[n]? =
    if n < text.length then some (offset + (encode (text.take n)).length) else none := by
  induction text generalizing offset n with
  | nil => rfl
  | cons c text ih =>
    cases n with
    | zero => rfl
    | succ n =>
      have hbytes : (encode ((c :: text).take (n + 1))).length =
          (encodeChar c).length + (encode (text.take n)).length := List.length_append
      rw [starts, List.getElem?_cons_succ, ih, hbytes, Nat.add_assoc]
      simp only [List.length_cons, Nat.add_lt_add_iff_right]

theorem upTo?_take (s : String) (n : Nat) :
    upTo? s (encode (s.toList.take n)).length = some (String.ofList (s.toList.take n)) := by
  have hsplit : ofString s = encode (s.toList.take n) ++ encode (s.toList.drop n) := by
    rw [← encode_append, List.take_append_drop]
    rfl
  have hle : (encode (s.toList.take n)).length ≤ (ofString s).length := by
    rw [hsplit, List.length_append]
    exact Nat.le_add_right _ _
  rw [upTo?, if_pos hle, hsplit, List.take_left, string?_eq_some_iff, ofString, String.toList_ofList]

/-- The character has two bytes. -/
example : upTo? "é" 1 = none ∧ upTo? "é" 2 = some "é" := by decide +kernel

end Utf8

section
variable {s : String}

/-- The eleventh character begins where the first ten end. -/
theorem upTo?_of_start {cut : Nat} (h : (Utf8.starts 0 s.toList)[10]? = some cut) :
    Utf8.upTo? s cut = some (String.ofList (s.toList.take 10)) := by
  rw [Utf8.getElem?_starts] at h
  split at h
  · rw [← Option.some.inj h, Nat.zero_add, Utf8.upTo?_take]
  · cases h

/-- No character of a short revision is the eleventh, and nothing is cut. -/
theorem truncateAtByte?_of_le (h : s.length ≤ 10) : truncateAtByte? s = some s := by
  have hcut : (Utf8.starts 0 s.toList)[revisionLength]? = none :=
    (Utf8.getElem?_starts 0 _ _).trans (if_neg (Nat.not_lt.mpr (String.length_toList.symm ▸ h)))
  rw [truncateAtByte?, hcut]

theorem truncateAtByte?_of_lt (h : 10 < s.length) :
    truncateAtByte? s = some (String.ofList (s.toList.take 10) ++ "...") := by
  obtain ⟨cut, hcut⟩ : ∃ cut, (Utf8.starts 0 s.toList)[revisionLength]? = some cut :=
    ⟨_, (Utf8.getElem?_starts 0 _ _).trans (if_pos (String.length_toList.symm ▸ h))⟩
  rw [truncateAtByte?, hcut]
  dsimp only
  rw [upTo?_of_start hcut]
  rfl

theorem truncateRevision_of_le (h : s.length ≤ 10) : truncateRevision s = s := by
  rw [truncateRevision, truncateAtByte?_of_le h, Option.getD_some]

theorem truncateRevision_of_lt (h : 10 < s.length) :
    truncateRevision s = String.ofList (s.toList.take 10) ++ "..." := by
  rw [truncateRevision, truncateAtByte?_of_lt h, Option.getD_some]

theorem truncateAtByte?_eq (s : String) : truncateAtByte? s = some (truncateRevision s) := by
  rcases Nat.lt_or_ge 10 s.length with hlong | hshort
  · rw [truncateAtByte?_of_lt hlong, truncateRevision_of_lt hlong]
  · rw [truncateAtByte?_of_le hshort, truncateRevision_of_le hshort]

theorem length_take_of_lt (h : 10 < s.length) : (s.toList.take 10).length = 10 := by
  rw [List.length_take, String.length_toList, Nat.min_eq_left (Nat.le_of_lt h)]

theorem toList_truncateRevision_of_lt (h : 10 < s.length) :
    (truncateRevision s).toList = s.toList.take 10 ++ ['.', '.', '.'] := by
  rw [truncateRevision_of_lt h, String.toList_append, String.toList_ofList]
  rfl

/-- What is shown unchanged is short, or it has ten characters and an ellipsis already. -/
theorem truncateRevision_eq_self_iff : truncateRevision s = s ↔
    s.length ≤ 10 ∨ ∃ front : List Char, front.length = 10 ∧ s.toList = front ++ ['.', '.', '.'] := by
  constructor
  · intro h
    rcases Nat.lt_or_ge 10 s.length with hlong | hshort
    · refine .inr ⟨s.toList.take 10, length_take_of_lt hlong, ?_⟩
      rw [← toList_truncateRevision_of_lt hlong, h]
    · exact .inl hshort
  · rintro (hshort | ⟨front, hfront, hs⟩)
    · exact truncateRevision_of_le hshort
    · have hlong : 10 < s.length := by
        rw [← String.length_toList, hs, List.length_append, hfront]
        decide
      apply String.toList_injective
      rw [toList_truncateRevision_of_lt hlong, hs, ← hfront, List.take_left]

theorem length_truncateRevision (s : String) :
    (truncateRevision s).length = if s.length ≤ 10 then s.length else 13 := by
  split
  · rename_i hshort
    rw [truncateRevision_of_le hshort]
  · rename_i hlong
    have hlong' := Nat.lt_of_not_le hlong
    rw [← String.length_toList, toList_truncateRevision_of_lt hlong', List.length_append, length_take_of_lt hlong']
    rfl

theorem take_prefix_truncateRevision (s : String) :
    s.toList.take (min 10 s.length) <+: (truncateRevision s).toList := by
  rcases Nat.lt_or_ge 10 s.length with hlong | hshort
  · rw [Nat.min_eq_left (Nat.le_of_lt hlong), toList_truncateRevision_of_lt hlong]
    exact List.prefix_append _ _
  · rw [truncateRevision_of_le hshort]
    exact List.take_prefix _ _

/-- What has been cut is either short or of the form that is kept, so it is not cut again. -/
theorem truncateRevision_idem (s : String) : truncateRevision (truncateRevision s) = truncateRevision s := by
  rw [truncateRevision_eq_self_iff]
  rcases Nat.lt_or_ge 10 s.length with hlong | hshort
  · exact .inr ⟨s.toList.take 10, length_take_of_lt hlong, toList_truncateRevision_of_lt hlong⟩
  · rw [truncateRevision_of_le hshort]
    exact .inl hshort

end

/-- A revision of at most ten characters is shown as it is, a longer one as its first ten characters and an ellipsis.
    These ten are what stands in front of the byte at which the eleventh begins, so no character is split. At most
    thirteen characters are shown, among them the first ten, and what is shown is not cut again. -/
theorem truncateRevision_at_byte (s : String) :
    truncateAtByte? s = some (truncateRevision s) ∧
      (∀ cut, (Utf8.starts 0 s.toList)[10]? = some cut → Utf8.upTo? s cut = some (String.ofList (s.toList.take 10))) ∧
      (s.length ≤ 10 → truncateRevision s = s) ∧
      (10 < s.length → truncateRevision s = String.ofList (s.toList.take 10) ++ "...") ∧
      (truncateRevision s).length ≤ 13 ∧ s.toList.take (min 10 s.length) <+: (truncateRevision s).toList ∧
      truncateRevision (truncateRevision s) = truncateRevision s := by
  refine ⟨truncateAtByte?_eq s, fun _ => upTo?_of_start, truncateRevision_of_le, truncateRevision_of_lt, ?_,
    take_prefix_truncateRevision s, truncateRevision_idem s⟩
  rw [length_truncateRevision]
  split <;> omega

end ClusterConsole
