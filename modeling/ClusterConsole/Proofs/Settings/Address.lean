import Mathlib.Data.List.Infix
import ClusterConsole.Proofs.Settings.Load
import ClusterConsole.Proofs.Text.Blank
import ClusterConsole.Url.Parser

/-! # The form of the registry's address

An address that is given for the registry is brought into a form that stays: nothing blank at its ends, and in it what
stands behind a scheme. Whether it has a scheme is decided by that alone, wherever in the address it stands. -/

namespace ClusterConsole.Settings
open Blank (BeginsVisibly EndsVisibly)

/-- What stands between the scheme of an address and the rest. -/
def separator : List Char := [':', '/', '/']

theorem occursIn_iff {part text : List Char} : occursIn part text = true ↔ part <:+: text := by
  induction text with
  | nil => rw [occursIn, List.isEmpty_iff, List.infix_nil]
  | cons c rest ih => rw [occursIn, Bool.or_eq_true, ih, List.isPrefixOf_iff_prefix, List.infix_cons_iff]

/-! ### What is used of an address -/

section
variable {url : String}

/-- An address without the blanks around it. -/
def bare (url : String) : List Char :=
  Blank.trim url.toList

theorem normalizeUrl_of_blank (h : bare url = []) : normalizeUrl url = default.apiUrl :=
  if_pos h

theorem normalizeUrl_of_separator (h : separator <:+: bare url) : normalizeUrl url = String.ofList (bare url) := by
  have hne : bare url ≠ [] := by
    intro hnil
    rw [hnil, List.infix_nil] at h
    cases h
  exact (if_neg hne).trans (if_pos (occursIn_iff.mpr h))

theorem normalizeUrl_of_no_separator (hne : bare url ≠ []) (h : ¬separator <:+: bare url) :
    normalizeUrl url = "http://" ++ String.ofList (bare url) :=
  (if_neg hne).trans (if_neg fun hoccurs => h (occursIn_iff.mp hoccurs))

end

/-! ### A form that stays -/

/-- An address in the form that is used. -/
structure Formed (url : String) : Prop where
  begins : BeginsVisibly url.toList
  ends : EndsVisibly url.toList
  separated : separator <:+: url.toList

namespace Formed
variable {url : String}

theorem normalizeUrl_eq (h : Formed url) : normalizeUrl url = url := by
  have hbare : bare url = url.toList := Blank.trim_eq_self h.begins h.ends
  rw [normalizeUrl_of_separator (hbare ▸ h.separated), hbare, String.ofList_toList]

/-- An address in the form that is used is not blank. -/
theorem exists_visible (h : Formed url) : ∃ c ∈ url.toList, isBlank c = false :=
  ⟨':', h.separated.subset List.mem_cons_self, rfl⟩

end Formed

theorem formed_default : Formed default.apiUrl where
  begins := Blank.beginsVisibly_cons rfl _
  ends := by
    rintro c ⟨⟩
    rfl
  separated := ⟨"http".toList, "127.0.0.1:8221".toList, by decide⟩

/-- Whatever is given for the address, the form that is used of it is one that stays. -/
theorem formed_normalizeUrl (url : String) : Formed (normalizeUrl url) := by
  have hbegins : BeginsVisibly (bare url) := Blank.beginsVisibly_trim url.toList
  have hends : EndsVisibly (bare url) := Blank.endsVisibly_trim url.toList
  by_cases hblank : bare url = []
  · rw [normalizeUrl_of_blank hblank]
    exact formed_default
  by_cases hseparator : separator <:+: bare url
  · rw [normalizeUrl_of_separator hseparator]
    constructor
    all_goals rw [String.toList_ofList]
    · exact hbegins
    · exact hends
    · exact hseparator
  · rw [normalizeUrl_of_no_separator hblank hseparator]
    have htext : ("http://" ++ String.ofList (bare url)).toList = "http".toList ++ separator ++ bare url := by
      rw [String.toList_append, String.toList_ofList, separator]
      simp
    constructor
    all_goals rw [htext]
    · exact Blank.beginsVisibly_cons rfl _
    · exact hends.append hblank
    · exact ⟨"http".toList, bare url, rfl⟩

theorem normalize_normalize (s : Settings) : s.normalize.normalize = s.normalize :=
  congrArg (fun url => { s with apiUrl := url }) (formed_normalizeUrl s.apiUrl).normalizeUrl_eq

theorem normalizeUrl_append_blanks {front back : String} (hfront : ∀ c ∈ front.toList, isBlank c)
    (hback : ∀ c ∈ back.toList, isBlank c) (url : String) : normalizeUrl (front ++ url ++ back) = normalizeUrl url := by
  have hbare : Blank.trim (front ++ url ++ back).toList = Blank.trim url.toList := by
    rw [String.toList_append, String.toList_append]
    exact Blank.trim_append_blanks hfront hback
  rw [normalizeUrl, normalizeUrl, hbare]

/-- Whatever is given for the address of the registry, the form that is used of it stays: it begins and ends visibly and
    holds what stands behind a scheme, so it is not blank, and it is its own form. Blanks around what is given do not
    count. So it is with the address that is loaded, whatever the file and the variables hold. -/
theorem normalizeUrl_stays (url : String) :
    normalizeUrl (normalizeUrl url) = normalizeUrl url ∧ Formed (normalizeUrl url) ∧
      (∃ c ∈ (normalizeUrl url).toList, isBlank c = false) ∧
      (∀ front back : String, (∀ c ∈ front.toList, isBlank c) → (∀ c ∈ back.toList, isBlank c) →
        normalizeUrl (front ++ url ++ back) = normalizeUrl url) ∧
      ∀ file lookup, let loaded := (load file lookup).1
        (∃ c ∈ loaded.apiUrl.toList, isBlank c = false) ∧ loaded.normalize = loaded := by
  have hformed := formed_normalizeUrl url
  refine ⟨hformed.normalizeUrl_eq, hformed, hformed.exists_visible,
    fun _ _ hfront hback => normalizeUrl_append_blanks hfront hback url, fun file lookup => ?_⟩
  obtain ⟨s, hs⟩ : ∃ s : Settings, (load file lookup).1 = s.normalize := by
    rw [load_eq]
    exact ⟨_, rfl⟩
  rw [hs]
  exact ⟨(formed_normalizeUrl s.apiUrl).exists_visible, normalize_normalize s⟩

/-- Blanks of four kinds around a host, and blanks alone. -/
theorem normalizeUrl_stays_of_blanks :
    (∀ c ∈ "\u3000\t".toList, isBlank c) ∧ (∀ c ∈ "\u0085\n".toList, isBlank c) ∧
      normalizeUrl ("\u3000\t" ++ "host:1/x" ++ "\u0085\n") = "http://host:1/x" ∧
      normalizeUrl ("\u3000\t" ++ "" ++ "\u0085\n") = "http://127.0.0.1:8221" := by
  have hfront : ∀ c ∈ "\u3000\t".toList, isBlank c := List.all_eq_true.mp (by decide)
  have hback : ∀ c ∈ "\u0085\n".toList, isBlank c := List.all_eq_true.mp (by decide)
  have hhost := (normalizeUrl_stays "host:1/x").2.2.2.1 _ _ hfront hback
  have hempty := (normalizeUrl_stays "").2.2.2.1 _ _ hfront hback
  exact ⟨hfront, hback, hhost.trans (by decide), hempty.trans (by decide)⟩

/-! ### Schemes -/

/-- A text begins with a scheme: a letter, and then characters of a scheme up to its separator. -/
def HasScheme (text : List Char) : Prop :=
  ∃ first more rest, text = first :: more ++ separator ++ rest ∧ first.isAlpha ∧ ∀ c ∈ more, Url.isSchemeChar c

theorem hasScheme_iff {text : List Char} :
    HasScheme text ↔ text.head?.any Char.isAlpha ∧ separator <+: text.dropWhile Url.isSchemeChar := by
  have hletter : ∀ {c : Char}, c.isAlpha → Url.isSchemeChar c := by
    intro c hc
    simp [Url.isSchemeChar, Char.isAlphanum, hc]
  constructor
  · rintro ⟨first, more, rest, rfl, hfirst, hmore⟩
    refine ⟨hfirst, rest, ?_⟩
    rw [List.append_assoc, List.dropWhile_append_of_pos (List.forall_mem_cons.mpr ⟨hletter hfirst, hmore⟩)]
    exact (List.dropWhile_cons_of_neg (by decide)).symm
  · rintro ⟨hhead, rest, hrest⟩
    obtain ⟨first, hfirst, halpha⟩ := (Option.any_eq_true _ _).mp hhead
    obtain ⟨text, rfl⟩ := List.head?_eq_some_iff.mp hfirst
    rw [List.dropWhile_cons_of_pos (hletter halpha)] at hrest
    refine ⟨first, text.takeWhile Url.isSchemeChar, rest, ?_, halpha, fun _ => List.mem_takeWhile_imp⟩
    rw [List.append_assoc, hrest, List.cons_append, List.takeWhile_append_dropWhile]

instance : DecidablePred HasScheme := fun _ => decidable_of_iff _ hasScheme_iff.symm

theorem HasScheme.separated {text : List Char} (h : HasScheme text) : separator <:+: text := by
  obtain ⟨first, more, rest, rfl, -⟩ := h
  exact ⟨first :: more, rest, rfl⟩

/-- An address with a scheme is used without the blanks around it, and one in which nothing stands that belongs behind
    a scheme gets the scheme `http`. But one without a scheme gets none either if that stands somewhere further in it,
    as in a path or a query. -/
theorem normalizeUrl_of_visible (url : String) (h : bare url ≠ []) :
    (HasScheme (bare url) → normalizeUrl url = String.ofList (bare url)) ∧
      (¬HasScheme (bare url) →
        (normalizeUrl url = "http://" ++ String.ofList (bare url) ↔ ¬separator <:+: bare url)) ∧
      (separator <:+: bare url → normalizeUrl url = String.ofList (bare url)) := by
  refine ⟨fun hscheme => normalizeUrl_of_separator hscheme.separated, fun _ => ⟨fun hadded hseparator => ?_,
    normalizeUrl_of_no_separator h⟩, normalizeUrl_of_separator⟩
  have hlength := congrArg String.length ((normalizeUrl_of_separator hseparator).symm.trans hadded)
  rw [String.length_append] at hlength
  exact absurd hlength (Nat.ne_of_lt (Nat.lt_add_of_pos_left (by decide)))

/-- An address with a scheme, a host with a port, and a host with another address in its query. -/
theorem normalizeUrl_of_visible_three :
    (bare " ws+a://h " ≠ [] ∧ HasScheme (bare " ws+a://h ") ∧ normalizeUrl " ws+a://h " = "ws+a://h") ∧
      (bare "h:1/x" ≠ [] ∧ ¬HasScheme (bare "h:1/x") ∧ normalizeUrl "h:1/x" = "http://h:1/x") ∧
      (bare "h/x?u=http://y" ≠ [] ∧ normalizeUrl "h/x?u=http://y" = "h/x?u=http://y") := by
  have hscheme : HasScheme (bare " ws+a://h ") := by decide
  have hbare : ¬HasScheme (bare "h:1/x") := by decide
  have hinside : separator <:+: bare "h/x?u=http://y" := ⟨"h/x?u=http".toList, "y".toList, by decide⟩
  exact ⟨⟨by decide, hscheme, (normalizeUrl_of_visible " ws+a://h " (by decide)).1 hscheme⟩,
    ⟨by decide, hbare, ((normalizeUrl_of_visible "h:1/x" (by decide)).2.1 hbare).mpr (by decide)⟩,
    by decide, (normalizeUrl_of_visible "h/x?u=http://y" (by decide)).2.2 hinside⟩

/-- A host with a port, a path and a query has no scheme, but gets none if another address stands in the query. -/
theorem not_added_before_query :
    ¬∀ url, bare url ≠ [] → (HasScheme (bare url) → normalizeUrl url = String.ofList (bare url)) ∧
      (¬HasScheme (bare url) → normalizeUrl url = "http://" ++ String.ofList (bare url)) := by
  intro h
  have hadded := (h "registry:8221/nodes?from=http://a" (by decide)).2 (by decide)
  exact absurd hadded (by decide)

end ClusterConsole.Settings
