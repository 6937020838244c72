import ClusterConsole.Table.Html

/-! # Escapes and what they stand for

An escaped text has none of the characters that markup is made of. Its entities, replaced from left to right, give the
text again, whether or not that looks escaped itself. -/

namespace ClusterConsole.Html

/-- A text with its entities replaced, from left to right. -/
def unescape : List Char → List Char
  | '&' :: 'a' :: 'm' :: 'p' :: ';' :: rest => '&' :: unescape rest
  | '&' :: 'l' :: 't' :: ';' :: rest => '<' :: unescape rest
  | '&' :: 'g' :: 't' :: ';' :: rest => '>' :: unescape rest
  | '&' :: 'q' :: 'u' :: 'o' :: 't' :: ';' :: rest => '"' :: unescape rest
  | '&' :: '#' :: '3' :: '9' :: ';' :: rest => '\'' :: unescape rest
  | c :: rest => c :: unescape rest
  | [] => []

/-- The characters that markup is made of. -/
def markupChars : List Char := ['<', '>', '"', '\'']

variable {c : Char}

@[simp] theorem toList_escape (text : String) : (escape text).toList = text.toList.flatMap escapeChar :=
  String.toList_ofList

theorem escapeChar_of_plain (hamp : c ≠ '&') (hmarkup : c ∉ markupChars) : escapeChar c = [c] := by
  obtain ⟨hlt, hgt, hquote, happ⟩ : c ≠ '<' ∧ c ≠ '>' ∧ c ≠ '"' ∧ c ≠ '\'' := by simpa [markupChars] using hmarkup
  rw [escapeChar, if_neg hamp, if_neg hlt, if_neg hgt, if_neg hquote, if_neg happ]

theorem unescape_cons (h : c ≠ '&') (rest : List Char) : unescape (c :: rest) = c :: unescape rest := by
  rw [unescape]
  all_goals
    rintro _ rfl
    exact absurd rfl h

/-- Whatever follows an escaped character, it is read as that character. -/
theorem unescape_escapeChar_append (c : Char) (rest : List Char) :
    unescape (escapeChar c ++ rest) = c :: unescape rest := by
  by_cases hamp : c = '&'
  · subst hamp
    rfl
  by_cases hmarkup : c ∈ markupChars
  · simp only [markupChars, List.mem_cons, List.not_mem_nil, or_false] at hmarkup
    obtain rfl | rfl | rfl | rfl := hmarkup
    all_goals rfl
  · rw [escapeChar_of_plain hamp hmarkup]
    exact unescape_cons hamp rest

theorem unescape_escaped (text : List Char) : unescape (text.flatMap escapeChar) = text := by
  induction text with
  | nil => rfl
  | cons c text ih => rw [List.flatMap_cons, unescape_escapeChar_append, ih]

/-- An escaped text holds no markup. -/
theorem not_mem_escaped {mark : Char} (hmark : mark ∈ markupChars) (text : List Char) :
    mark ∉ text.flatMap escapeChar := by
  have entities : ∀ c ∈ '&' :: markupChars, mark ∉ escapeChar c := by
    intro c hc
    simp only [markupChars, List.mem_cons, List.not_mem_nil, or_false] at hc hmark
    obtain rfl | rfl | rfl | rfl | rfl := hc
    all_goals
      obtain rfl | rfl | rfl | rfl := hmark
      all_goals decide
  intro hmem
  obtain ⟨c, -, hc⟩ := List.mem_flatMap.mp hmem
  by_cases hspecial : c ∈ '&' :: markupChars
  · exact entities c hspecial hc
  · obtain ⟨hamp, hplain⟩ := not_or.mp (mt List.mem_cons.mpr hspecial)
    rw [escapeChar_of_plain hamp hplain, List.mem_singleton] at hc
    exact hplain (hc ▸ hmark)

end ClusterConsole.Html
