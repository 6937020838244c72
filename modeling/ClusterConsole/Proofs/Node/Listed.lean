import Mathlib.Data.List.Forall2
import ClusterConsole.Proofs.Node.Tree

/-! # Lists of records

A document that lists values gives the records that the values give each as a document of its own, and no record at all
if one of them gives none. No value takes anything from its neighbours, whatever it holds. -/

namespace ClusterConsole
open Json

section
variable {α β : Type} {f : α → Option β} {xs : List α}

theorem mapM_eq_some_iff {ys : List β} : xs.mapM f = some ys ↔ List.Forall₂ (fun x y => f x = some y) xs ys := by
  induction xs generalizing ys with
  | nil =>
    rw [List.mapM_nil, List.forall₂_nil_left_iff]
    exact ⟨fun h => (Option.some.inj h).symm, fun h => congrArg some h.symm⟩
  | cons x xs ih =>
    rw [List.mapM_cons, List.forall₂_cons_left_iff]
    constructor
    · intro h
      obtain ⟨y, hy, h⟩ := Option.bind_eq_some_iff.mp h
      obtain ⟨more, hmore, h⟩ := Option.bind_eq_some_iff.mp h
      exact ⟨y, more, hy, ih.mp hmore, (Option.some.inj h).symm⟩
    · rintro ⟨y, more, hy, hmore, rfl⟩
      rw [hy, ih.mpr hmore]
      rfl

theorem mapM_eq_none_iff : xs.mapM f = none ↔ ∃ x ∈ xs, f x = none := by
  induction xs with
  | nil => exact ⟨nofun, nofun⟩
  | cons x xs ih =>
    rw [List.mapM_cons, List.exists_mem_cons_iff, ← ih]
    cases f x with
    | none => exact ⟨fun _ => .inl rfl, fun _ => rfl⟩
    | some y =>
      cases xs.mapM f with
      | none => exact ⟨fun _ => .inr rfl, fun _ => rfl⟩
      | some ys => exact ⟨nofun, nofun⟩

end

namespace NodeRecord

theorem decodeList_toOption (es : List (Spaced Tree)) :
    (decodeList (Utf8.encode (writeArray (es.map (Spaced.text Tree.text))))).toOption =
      es.mapM fun e => ofTree? e.value := by
  have htext : writeArray (es.map (Spaced.text Tree.text)) =
      Spaced.text Tree.text ⟨.none, .array .none es, .none⟩ := by
    rw [Spaced.text, Tree.text, Tree.elementTexts_eq, writeArray]
    exact (List.append_nil _).symm
  rw [htext]
  have hread : ∀ e ∈ es, Answers (read 126) e.value.text (ofTree? e.value) := fun e _ => read_answers 124 e.value
  exact document_toOption (array_answers hread Gap.none)

/-- Decoding a list is decoding its elements, each of them one value among blanks: the list gives records exactly when
every element alone gives one, and then these, as many and in their order; it is refused exactly when an element alone
is. -/
theorem decodeList_elements (es : List (Spaced Tree)) :
    (∀ rs, decodeList (Utf8.encode (writeArray (es.map (Spaced.text Tree.text)))) = .ok rs ↔
      rs.length = es.length ∧ List.Forall₂ (fun e r => decode (Utf8.encode (e.text Tree.text)) = .ok r) es rs) ∧
    ((∃ refusal, decodeList (Utf8.encode (writeArray (es.map (Spaced.text Tree.text)))) = .error refusal) ↔
      ∃ e ∈ es, ∃ refusal, decode (Utf8.encode (e.text Tree.text)) = .error refusal) := by
  refine ⟨fun rs => ?_, ?_⟩
  · rw [← toOption_eq_some_iff, decodeList_toOption, mapM_eq_some_iff]
    simp only [← toOption_eq_some_iff, decode_toOption]
    exact ⟨fun h => ⟨h.length_eq.symm, h⟩, And.right⟩
  · rw [← toOption_eq_none_iff, decodeList_toOption, mapM_eq_none_iff]
    simp only [← toOption_eq_none_iff, decode_toOption]

/-- Two nodes with identifiers of two kinds, and one of them beside an object that is none. -/
example :
    (decodeList (Utf8.encode "[\x7b\"id\":1\x7d, \x7b\"id\":\"a\",\"tags\":[]\x7d]".toList)).toOption =
      some [{ id := .numeric 1 }, { id := .text "a" }] ∧
    (decodeList (Utf8.encode "[\x7b\"id\":1\x7d,\x7b\"id\":true\x7d]".toList)).toOption = none := by decide +kernel

end NodeRecord

end ClusterConsole
