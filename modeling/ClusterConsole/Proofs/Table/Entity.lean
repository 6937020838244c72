import Mathlib.Data.List.Infix
import ClusterConsole.Proofs.Table.Html

/-! # Texts and their escapes

An escaped text has no markup, and each ampersand in it begins an entity. Every text has exactly one such text that is
read as it, its escape. So a text that holds entities itself is shown with them, in a cell as in an attribute. -/

namespace ClusterConsole.Html
open Markup

/-- What is written for the characters that are not written as themselves. -/
def entities : List (List Char) :=
  ["&amp;".toList, "&lt;".toList, "&gt;".toList, "&quot;".toList, "&#39;".toList]

/-- The text has no markup, and each ampersand in it begins an entity. -/
structure Escaped (text : List Char) : Prop where
  plain : ∀ mark ∈ markupChars, mark ∉ text
  entity : ∀ rest, '&' :: rest <:+ text → ∃ entity ∈ entities, entity <+: '&' :: rest

variable {c : Char} {text rest : List Char}

/-- The entities are what the special characters are written as. -/
theorem entities_eq : entities = ('&' :: markupChars).map escapeChar := rfl

theorem Escaped.of_suffix (h : Escaped text) (hsuffix : rest <:+ text) : Escaped rest where
  plain mark hmark hmem := h.plain mark hmark (hsuffix.mem hmem)
  entity more hmore := h.entity more (hmore.trans hsuffix)

/-! ### Written texts -/

/-- What does not begin in the first part of a text begins in the second. -/
theorem suffix_of_not_mem {xs ys : List Char} (h : c ∉ xs) (hsuffix : c :: rest <:+ xs ++ ys) : c :: rest <:+ ys := by
  induction xs with
  | nil => exact hsuffix
  | cons x xs ih =>
    obtain ⟨hx, hxs⟩ := not_or.mp (mt List.mem_cons.mpr h)
    rcases List.suffix_cons_iff.mp hsuffix with heq | hsuffix
    · exact absurd (List.cons.inj heq).1 hx
    · exact ih hxs hsuffix

/-- In an escaped text an ampersand stands only where an entity has been written. -/
theorem entity_of_ampersand (text : List Char) (h : '&' :: rest <:+ text.flatMap escapeChar) :
    ∃ entity ∈ entities, entity <+: '&' :: rest := by
  -- An entity has no ampersand but its first character.
  have hbegins : ∀ entity ∈ entities, entity = '&' :: entity.tail ∧ '&' ∉ entity.tail := by decide
  induction text with
  | nil => cases List.suffix_nil.mp h
  | cons c text ih =>
    rw [List.flatMap_cons] at h
    by_cases hspecial : c ∈ '&' :: markupChars
    · have hentity : escapeChar c ∈ entities := entities_eq ▸ List.mem_map_of_mem hspecial
      obtain ⟨hamp, htail⟩ := hbegins _ hentity
      rw [hamp, List.cons_append, List.suffix_cons_iff] at h
      rcases h with heq | hlater
      · refine ⟨escapeChar c, hentity, ?_⟩
        rw [heq, ← List.cons_append, ← hamp]
        exact List.prefix_append _ _
      · exact ih (suffix_of_not_mem htail hlater)
    · obtain ⟨hamp, hplain⟩ := not_or.mp (mt List.mem_cons.mpr hspecial)
      rw [escapeChar_of_plain hamp hplain] at h
      exact ih (suffix_of_not_mem (fun hmem => hamp (List.mem_singleton.mp hmem).symm) h)

theorem escaped_escape (text : String) : Escaped (escape text).toList := by
  rw [toList_escape]
  exact ⟨fun _ hmark => not_mem_escaped hmark _, fun _ => entity_of_ampersand _⟩

theorem escape_append (a b : String) : escape (a ++ b) = escape a ++ escape b := by
  apply String.toList_injective
  rw [String.toList_append, toList_escape, toList_escape, toList_escape, String.toList_append, List.flatMap_append]

/-! ### Reading -/

/-- Any text is read by an entity or, where none begins, by a character at a time. -/
theorem reading_induction {motive : List Char → Prop} (nil : motive [])
    (entity : ∀ c ∈ '&' :: markupChars, ∀ rest, motive rest → motive (escapeChar c ++ rest))
    (plain : ∀ c rest, (∀ entity ∈ entities, ¬entity <+: c :: rest) →
      unescape (c :: rest) = c :: unescape rest → motive rest → motive (c :: rest))
    (text : List Char) : motive text := by
  fun_induction unescape text with
  | case1 rest ih => exact entity '&' (by decide) rest ih
  | case2 rest ih => exact entity '<' (by decide) rest ih
  | case3 rest ih => exact entity '>' (by decide) rest ih
  | case4 rest ih => exact entity '"' (by decide) rest ih
  | case5 rest ih => exact entity '\'' (by decide) rest ih
  | case6 c rest hamp hlt hgt hquote happ ih =>
    refine plain c rest ?_ (by rw [unescape] <;> assumption) ih
    rintro entity hentity ⟨more, hmore⟩
    simp only [entities, List.mem_cons, List.not_mem_nil, or_false] at hentity
    obtain rfl | rfl | rfl | rfl | rfl := hentity
    all_goals obtain ⟨rfl, rfl⟩ := List.cons.inj hmore
    · exact hamp more rfl rfl
    · exact hlt more rfl rfl
    · exact hgt more rfl rfl
    · exact hquote more rfl rfl
    · exact happ more rfl rfl
  | case7 => exact nil

/-- An escaped text is the escape of what is read. -/
theorem flatMap_unescape (h : Escaped text) : (unescape text).flatMap escapeChar = text := by
  induction text using reading_induction with
  | nil => rfl
  | entity c _ rest ih =>
    rw [unescape_escapeChar_append, List.flatMap_cons, ih (h.of_suffix (List.suffix_append _ _))]
  | plain c rest hnone hread ih =>
    have hamp : c ≠ '&' := by
      rintro rfl
      obtain ⟨entity, hentity, hprefix⟩ := h.entity rest List.suffix_rfl
      exact hnone entity hentity hprefix
    have hmarkup : c ∉ markupChars := fun hmem => h.plain c hmem List.mem_cons_self
    rw [hread, List.flatMap_cons, escapeChar_of_plain hamp hmarkup,
      ih (h.of_suffix (List.suffix_cons _ _)), List.singleton_append]

theorem one_lt_length_escapeChar (h : c ∈ '&' :: markupChars) : 1 < (escapeChar c).length := by
  simp only [markupChars, List.mem_cons, List.not_mem_nil, or_false] at h
  obtain rfl | rfl | rfl | rfl | rfl := h
  all_goals decide

theorem length_unescape_le (text : List Char) : (unescape text).length ≤ text.length := by
  induction text using reading_induction with
  | nil => exact Nat.le_refl 0
  | entity c hc rest ih =>
    have hlength := one_lt_length_escapeChar hc
    rw [unescape_escapeChar_append, List.length_cons, List.length_append]
    omega
  | plain c rest _ hread ih =>
    rw [hread]
    exact Nat.succ_le_succ ih

/-- A text that holds an entity is read as a shorter one. -/
theorem length_unescape_lt {entity : List Char} (hentity : entity ∈ entities) (h : entity <:+: text) :
    (unescape text).length < text.length := by
  induction text using reading_induction with
  | nil =>
    obtain rfl := List.infix_nil.mp h
    exact absurd hentity (by decide)
  | entity c hc rest _ =>
    have hlength := one_lt_length_escapeChar hc
    have hrest := length_unescape_le rest
    rw [unescape_escapeChar_append, List.length_cons, List.length_append]
    omega
  | plain c rest hnone hread ih =>
    rw [hread]
    exact Nat.succ_lt_succ (ih ((List.infix_cons_iff.mp h).resolve_left (hnone entity hentity)))

/-! ### Shown texts -/

theorem tokens?_cell (text : String) :
    tokens? ("<td>" ++ escape text ++ "</td>") = some (cellTokens "td" text ++ [.text []]) := by
  have hscan := scan_cell isTag_td isTag_td_close [] text
  rw [tokens?, hscan]
  rfl

theorem tokens?_attribute (text : String) : tokens? ("<tr data-node-id=\"" ++ escape text ++ "\">") =
    some [.text [], .tag "tr".toList [("data-node-id".toList, text.toList)], .text []] := by
  have hopen : Reader.scan {} "<tr data-node-id=\"" = ⟨[.text []], .value "tr".toList [] "data-node-id".toList []⟩ := by
    decide +kernel
  rw [tokens?, Reader.scan_append, Reader.scan_append, hopen, Reader.scan_escape_value, Reader.scan_value_end,
    unescape_escaped]
  rfl

/-- The escape of a text has no markup and each ampersand in it begins an entity; its entities, replaced from left to
    right, give the text, and no other such text does. Texts with the same escape are the same, and texts behind each
    other are escaped each for itself. A cell and an attribute show the text as it is, also where it holds entities and
    replacing these would give another text. -/
theorem escape_read_back (text : String) :
    Escaped (escape text).toList ∧ unescape (escape text).toList = text.toList ∧
      (∀ written, Escaped written → unescape written = text.toList → written = (escape text).toList) ∧
      (∀ other, escape other = escape text → other = text) ∧
      (∀ more, escape (text ++ more) = escape text ++ escape more) ∧
      tokens? ("<td>" ++ escape text ++ "</td>") =
        some [.text [], .tag "td".toList [], .text text.toList, .tag "/td".toList [], .text []] ∧
      tokens? ("<tr data-node-id=\"" ++ escape text ++ "\">") =
        some [.text [], .tag "tr".toList [("data-node-id".toList, text.toList)], .text []] ∧
      ∀ entity ∈ entities, entity <:+: text.toList → unescape text.toList ≠ text.toList := by
  have hread : ∀ text : String, unescape (escape text).toList = text.toList := fun text => by
    rw [toList_escape, unescape_escaped]
  refine ⟨escaped_escape text, hread text, fun written hwritten heq => ?_, fun other heq => ?_, escape_append text,
    tokens?_cell text, tokens?_attribute text, fun entity hentity hinfix heq => ?_⟩
  · rw [toList_escape, ← heq, flatMap_unescape hwritten]
  · apply String.toList_injective
    rw [← hread other, heq, hread text]
  · have hshorter := length_unescape_lt hentity hinfix
    rw [heq] at hshorter
    exact Nat.lt_irrefl _ hshorter

/-- A text that looks escaped, with all characters that are escaped. -/
theorem escape_read_back_of_entities :
    let text := "&lt;td title='&amp;quot;'>"
    let written := "&amp;lt;td title=&#39;&amp;amp;quot;&#39;&gt;".toList
    Escaped written ∧ unescape written = text.toList ∧ written = (escape text).toList ∧ "&lt;".toList ∈ entities ∧
      "&lt;".toList <:+: text.toList ∧ unescape text.toList ≠ text.toList := by
  intro text written
  obtain ⟨-, -, honly, -, -, -, -, hdecoded⟩ := escape_read_back text
  have hbegins : ∀ tail ∈ written.tails, tail.head? = some '&' → ∃ entity ∈ entities, entity <+: tail := by
    decide +kernel
  have hplain : (markupChars.all fun mark => mark ∉ written) = true := by decide +kernel
  have hwritten : Escaped written := ⟨fun mark hmark => of_decide_eq_true (List.all_eq_true.mp hplain mark hmark),
    fun rest hrest => hbegins _ ((List.mem_tails _ _).mpr hrest) rfl⟩
  have hread : unescape written = text.toList := by decide +kernel
  have hinfix : "&lt;".toList <:+: text.toList := ⟨[], "td title='&amp;quot;'>".toList, by decide +kernel⟩
  exact ⟨hwritten, hread, honly written hwritten hread, by decide, hinfix, hdecoded _ (by decide) hinfix⟩

end ClusterConsole.Html
