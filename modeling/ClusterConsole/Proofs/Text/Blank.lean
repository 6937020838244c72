import Mathlib.Data.List.DropRight
import ClusterConsole.Text.Blank

/-! # Blanks at the ends

What is left of a text without the blanks that it ends with is its longest beginning that does not end in a blank.
Without the blanks at either end, a text is what neither begins nor ends with one, whatever blanks stand around it. -/

namespace ClusterConsole.Blank
variable {text front back : List Char}

/-- A text does not end in a blank. -/
def EndsVisibly (text : List Char) : Prop :=
  ∀ c ∈ text.getLast?, isBlank c = false

theorem exists_eq_trimEnd_append (text : List Char) :
    ∃ blanks, text = trimEnd text ++ blanks ∧ ∀ c ∈ blanks, isBlank c :=
  ⟨text.rtakeWhile isBlank, List.rdropWhile_append_rtakeWhile.symm, fun _ => List.mem_rtakeWhile_imp⟩

theorem endsVisibly_trimEnd (text : List Char) : EndsVisibly (trimEnd text) := by
  intro c hc
  obtain ⟨hne, rfl⟩ := List.mem_getLast?_eq_getLast hc
  exact Bool.eq_false_iff.mpr (List.rdropWhile_last_not isBlank text hne)

theorem trimEnd_append_blanks (hback : ∀ c ∈ back, isBlank c) : trimEnd (front ++ back) = trimEnd front := by
  have hreverse : ∀ c ∈ back.reverse, isBlank c := fun c hc => hback c (List.mem_reverse.mp hc)
  rw [trimEnd, List.reverse_append, List.dropWhile_append_of_pos hreverse]
  rfl

theorem trimEnd_eq_self (h : EndsVisibly text) : trimEnd text = text :=
  List.rdropWhile_eq_self_iff.mpr fun hne => by
    simp [h _ (List.getLast?_eq_some_getLast hne)]

/-- There is one way to part a text into what ends visibly and blanks. -/
theorem trimEnd_append_of_endsVisibly (hfront : EndsVisibly front) (hback : ∀ c ∈ back, isBlank c) :
    trimEnd (front ++ back) = front := by
  rw [trimEnd_append_blanks hback, trimEnd_eq_self hfront]

theorem EndsVisibly.append (hback : EndsVisibly back) (hne : back ≠ []) : EndsVisibly (front ++ back) := by
  intro c hc
  rw [List.getLast?_append_of_ne_nil _ hne] at hc
  exact hback c hc

theorem trimEnd_eq_nil_iff : trimEnd text = [] ↔ ∀ c ∈ text, isBlank c :=
  List.rdropWhile_eq_nil_iff

theorem trimEnd_append_of_visible (h : trimEnd back ≠ []) : trimEnd (front ++ back) = front ++ trimEnd back := by
  obtain ⟨blanks, hback, hblanks⟩ := exists_eq_trimEnd_append back
  conv_lhs => rw [hback, ← List.append_assoc]
  exact trimEnd_append_of_endsVisibly ((endsVisibly_trimEnd back).append h) hblanks

theorem trimEnd_prefix_self (text : List Char) : trimEnd text <+: text :=
  List.rdropWhile_prefix isBlank text

theorem trimEnd_prefix_trimEnd_append (front back : List Char) : trimEnd front <+: trimEnd (front ++ back) := by
  by_cases h : trimEnd back = []
  · have hsame : trimEnd (front ++ back) = trimEnd front := trimEnd_append_blanks (trimEnd_eq_nil_iff.mp h)
    exact hsame ▸ List.prefix_refl _
  · rw [trimEnd_append_of_visible h]
    exact (trimEnd_prefix_self front).trans (List.prefix_append _ _)

/-- A blank is left when something visible stands behind it. -/
theorem mem_trimEnd_iff {b : Char} (hb : isBlank b = true) :
    b ∈ trimEnd text ↔ ∃ front back, text = front ++ b :: back ∧ ∃ c ∈ back, isBlank c = false := by
  constructor
  · intro h
    obtain ⟨front, back, htrim⟩ := List.append_of_mem h
    obtain ⟨blanks, htext, -⟩ := exists_eq_trimEnd_append text
    refine ⟨front, back ++ blanks, ?_, ?_⟩
    · rw [htext, htrim, List.append_assoc, List.cons_append]
    · have hne : b :: back ≠ [] := List.cons_ne_nil b back
      obtain ⟨last, hlast⟩ : ∃ last, (b :: back).getLast? = some last := ⟨_, List.getLast?_eq_some_getLast hne⟩
      have hvisible : isBlank last = false := by
        refine endsVisibly_trimEnd text last ?_
        rw [htrim, List.getLast?_append_of_ne_nil _ hne, hlast]
        rfl
      rcases List.mem_cons.mp (List.mem_of_getLast? hlast) with rfl | hmem
      · exact absurd (hb.symm.trans hvisible) nofun
      · exact ⟨last, List.mem_append_left _ hmem, hvisible⟩
  · rintro ⟨front, back, rfl, c, hc, hvisible⟩
    have hback : trimEnd back ≠ [] := fun hnil => by
      rw [trimEnd_eq_nil_iff] at hnil
      exact absurd ((hnil c hc).symm.trans hvisible) nofun
    rw [← List.singleton_append, ← List.append_assoc, trimEnd_append_of_visible hback]
    exact List.mem_append_left _ (List.mem_append_right _ (List.mem_singleton_self b))

theorem EndsVisibly.filter {keep : Char → Bool} (hkeep : ∀ c, isBlank c = false → keep c = true)
    (h : EndsVisibly text) : EndsVisibly (text.filter keep) := by
  rcases List.eq_nil_or_concat text with rfl | ⟨front, last, rfl⟩
  · exact nofun
  · have hlast : isBlank last = false := h last (by rw [List.concat_eq_append, List.getLast?_concat]; rfl)
    intro c hc
    rw [List.concat_eq_append, List.filter_append, List.filter_cons_of_pos (hkeep last hlast), List.filter_nil,
      List.getLast?_concat] at hc
    obtain rfl := Option.some.inj hc
    exact hlast

/-- Blanks within a text may be taken out before or after those at its end. -/
theorem filter_trimEnd {keep : Char → Bool} (hkeep : ∀ c, isBlank c = false → keep c = true) (text : List Char) :
    (trimEnd text).filter keep = trimEnd (text.filter keep) := by
  obtain ⟨blanks, htext, hblanks⟩ := exists_eq_trimEnd_append text
  have hfilter : text.filter keep = (trimEnd text).filter keep ++ blanks.filter keep := by
    rw [← List.filter_append, ← htext]
  rw [hfilter, trimEnd_append_of_endsVisibly ((endsVisibly_trimEnd text).filter hkeep)]
  exact fun c hc => hblanks c (List.mem_of_mem_filter hc)

/-! ### Both ends -/

/-- A text does not begin with a blank. -/
def BeginsVisibly (text : List Char) : Prop :=
  ∀ c ∈ text.head?, isBlank c = false

theorem beginsVisibly_cons {c : Char} (hc : isBlank c = false) (text : List Char) : BeginsVisibly (c :: text) := by
  rintro d ⟨⟩
  exact hc

theorem beginsVisibly_trimStart (text : List Char) : BeginsVisibly (trimStart text) := by
  intro c hc
  have h := List.head?_dropWhile_not isBlank text
  rw [trimStart] at hc
  rw [hc] at h
  exact h

theorem BeginsVisibly.of_front (h : BeginsVisibly text) (hfront : front <+: text) : BeginsVisibly front := by
  obtain ⟨rest, rfl⟩ := hfront
  cases front with
  | nil => exact nofun
  | cons c front => exact h

theorem beginsVisibly_trim (text : List Char) : BeginsVisibly (trim text) :=
  (beginsVisibly_trimStart text).of_front (trimEnd_prefix_self _)

theorem endsVisibly_trim (text : List Char) : EndsVisibly (trim text) :=
  endsVisibly_trimEnd _

theorem exists_eq_append_trim (text : List Char) :
    ∃ front back, text = front ++ trim text ++ back ∧ (∀ c ∈ front, isBlank c) ∧ ∀ c ∈ back, isBlank c := by
  obtain ⟨back, htext, hback⟩ := exists_eq_trimEnd_append (trimStart text)
  refine ⟨text.takeWhile isBlank, back, ?_, fun _ => List.mem_takeWhile_imp, hback⟩
  rw [List.append_assoc, trim, ← htext]
  exact List.takeWhile_append_dropWhile.symm

/-- There is one way to part a text into what begins and ends visibly and blanks around it. -/
theorem trim_append_of_visible (hfront : ∀ c ∈ front, isBlank c) (hback : ∀ c ∈ back, isBlank c)
    (hbegins : BeginsVisibly text) (hends : EndsVisibly text) : trim (front ++ text ++ back) = text := by
  rw [trim, trimStart, List.append_assoc, List.dropWhile_append_of_pos hfront]
  cases text with
  | nil => rw [List.nil_append, List.dropWhile_eq_nil_iff.mpr hback]; rfl
  | cons c rest =>
    have hc : ¬isBlank c = true := Bool.eq_false_iff.mp (hbegins c rfl)
    rw [List.cons_append, List.dropWhile_cons_of_neg hc]
    exact trimEnd_append_of_endsVisibly hends hback

theorem trim_eq_self (hbegins : BeginsVisibly text) (hends : EndsVisibly text) : trim text = text := by
  have h : trim ([] ++ text ++ []) = text := trim_append_of_visible nofun nofun hbegins hends
  rwa [List.nil_append, List.append_nil] at h

/-- Blanks around a text do not count. -/
theorem trim_append_blanks (hfront : ∀ c ∈ front, isBlank c) (hback : ∀ c ∈ back, isBlank c) :
    trim (front ++ text ++ back) = trim text := by
  obtain ⟨before, after, htext, hbefore, hafter⟩ := exists_eq_append_trim text
  have hall : front ++ text ++ back = front ++ before ++ trim text ++ (after ++ back) := by
    conv_lhs => rw [htext]
    simp only [List.append_assoc]
  rw [hall]
  exact trim_append_of_visible (List.forall_mem_append.mpr ⟨hfront, hbefore⟩)
    (List.forall_mem_append.mpr ⟨hafter, hback⟩) (beginsVisibly_trim text) (endsVisibly_trim text)

end ClusterConsole.Blank
