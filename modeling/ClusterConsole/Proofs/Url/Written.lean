import ClusterConsole.Proofs.Url.Percent
import ClusterConsole.Url.Parser

/-! # Addresses as they are written

An address is written as its parts side by side, its path as a slash before each segment. An address that was read has
a segment at least and no slash within one, so that the segments are found again between the slashes. -/

namespace ClusterConsole

namespace Path
variable {path : Path} {segment : List Char} {segments : List (List Char)}

/-- A path as reading gives it. -/
structure Divided (path : Path) : Prop where
  notEmpty : path ≠ []
  noSlash : ∀ segment ∈ path, '/' ∉ segment

theorem mem_of_mem_back {s : List Char} (h : s ∈ path.back) : s ∈ path := by
  unfold back at h
  split at h
  · split at h
    · exact h
    · exact (List.dropLast_sublist path).mem h
  · cases h

theorem mem_step {s : List Char} {final : Bool} (h : s ∈ path.step segment final) : s ∈ path ∨ s = segment ∨ s = [] := by
  have ending : s ∈ (if final then [[]] else ([] : Path)) → s = [] := by cases final <;> simp
  unfold step at h
  split at h
  · rcases List.mem_append.mp h with hback | hend
    · exact Or.inl (mem_of_mem_back hback)
    · exact Or.inr (Or.inr (ending hend))
  · split at h
    · rcases List.mem_append.mp h with hpath | hend
      · exact Or.inl hpath
      · exact Or.inr (Or.inr (ending hend))
    · rcases List.mem_append.mp h with hpath | hsegment
      · exact Or.inl hpath
      · exact Or.inr (Or.inl (List.mem_singleton.mp hsegment))

theorem mem_steps {s : List Char} (h : s ∈ path.steps segments) : s ∈ path ∨ s ∈ segments ∨ s = [] := by
  fun_induction steps path segments with
  | case1 path => exact Or.inl h
  | case2 path segment => exact (mem_step h).imp id (Or.imp_left List.mem_singleton.mpr)
  | case3 path segment next rest ih =>
    rcases ih h with hpath | hrest | hnil
    · rcases mem_step hpath with hpath | rfl | hnil
      · exact Or.inl hpath
      · exact Or.inr (Or.inl List.mem_cons_self)
      · exact Or.inr (Or.inr hnil)
    · exact Or.inr (Or.inl (List.mem_cons_of_mem segment hrest))
    · exact Or.inr (Or.inr hnil)

theorem step_final_ne_nil (path : Path) (segment : List Char) : path.step segment true ≠ [] := by
  unfold step
  split
  · exact List.append_ne_nil_of_right_ne_nil _ (List.cons_ne_nil _ _)
  · split <;> exact List.append_ne_nil_of_right_ne_nil _ (List.cons_ne_nil _ _)

theorem steps_ne_nil (h : segments ≠ []) (path : Path) : path.steps segments ≠ [] := by
  fun_induction steps path segments with
  | case1 => exact absurd rfl h
  | case2 path segment => exact step_final_ne_nil path segment
  | case3 path segment next rest ih => exact ih (List.cons_ne_nil next rest)

end Path

namespace Url
open ClusterConsole.Path

/-! ### Paths that are read -/

theorem splitSlashes_ne_nil (text : List Char) : splitSlashes text ≠ [] := by
  cases text with
  | nil => exact List.cons_ne_nil _ _
  | cons c text =>
    rw [splitSlashes, List.foldr_cons]
    split
    · exact List.cons_ne_nil _ _
    · split <;> exact List.cons_ne_nil _ _

theorem not_mem_of_mem_splitSlashes {text piece : List Char} (h : piece ∈ splitSlashes text) : '/' ∉ piece := by
  induction text generalizing piece with
  | nil =>
    obtain rfl := List.mem_singleton.mp h
    exact List.not_mem_nil
  | cons c text ih =>
    rw [splitSlashes, List.foldr_cons, ← splitSlashes] at h
    split at h
    · rcases List.mem_cons.mp h with rfl | h
      · exact List.not_mem_nil
      · exact ih h
    · rename_i hslash
      have hc : '/' ≠ c := by
        rintro rfl
        exact hslash rfl
      split at h
      · obtain rfl := List.mem_singleton.mp h
        simpa using hc
      · rename_i first rest hpieces
        rcases List.mem_cons.mp h with rfl | h
        · exact List.not_mem_cons_of_ne_of_not_mem hc (ih (hpieces ▸ List.mem_cons_self))
        · exact ih (hpieces ▸ List.mem_cons_of_mem first h)

theorem divided_steps (text : List Char) :
    Divided (Path.steps [] ((splitSlashes text).map (Percent.encode Percent.inPath))) := by
  refine ⟨steps_ne_nil (mt List.map_eq_nil_iff.mp (splitSlashes_ne_nil text)) _, fun segment hsegment hmem => ?_⟩
  rcases mem_steps hsegment with h | h | rfl
  · cases h
  · obtain ⟨piece, hpiece, rfl⟩ := List.mem_map.mp h
    rcases Percent.mem_encode hmem with ⟨hslash, -⟩ | heq | hdigit
    · exact not_mem_of_mem_splitSlashes hpiece hslash
    · exact absurd heq (by decide)
    · exact absurd hdigit (by decide)
  · cases hmem

theorem divided_of_parse {text : List Char} {u : Url} (h : parse text = .ok (.web u)) : Divided u.path := by
  have hauthority : ∀ {scheme : WebScheme} {rest : List Char}, ofAuthority scheme rest = .ok u → Divided u.path := by
    intro scheme rest hu
    simp only [ofAuthority, bind, Except.bind] at hu
    split at hu
    · cases hu
    · cases hu
      exact divided_steps _
  unfold parse at h
  split at h
  · cases h
  · split at h
    · rename_i web _
      cases hu : ofAuthority web _ with
      | error fault => rw [hu] at h; cases h
      | ok read => rw [hu] at h; cases h; exact hauthority hu
    · cases hother : checkOther _ _ with
      | error fault => rw [hother] at h; cases h
      | ok done => rw [hother] at h; cases h

/-! ### The parts of an address -/

section
variable {u : Url} {path path' : Path}

/-- What is written before the path of an address. -/
def beforePath (u : Url) : List Char :=
  u.scheme.text ++ [':', '/', '/'] ++ u.userinfoText ++ u.host.text ++ u.portText

/-- What is written behind the path of an address. -/
def behindPath (u : Url) : List Char :=
  u.queryText ++ u.fragmentText

theorem chars_eq (u : Url) : u.chars = u.beforePath ++ (u.pathText ++ u.behindPath) := by
  simp [chars, beforePath, behindPath]

/-- Addresses that differ in their paths alone are written alike only if their paths are. -/
theorem pathText_of_text_eq (h : ({ u with path } : Url).text = ({ u with path := path' } : Url).text) :
    ({ u with path } : Url).pathText = ({ u with path := path' } : Url).pathText := by
  have hchars : ({ u with path } : Url).chars = ({ u with path := path' } : Url).chars := String.ofList_injective h
  rw [chars_eq, chars_eq] at hchars
  exact List.append_cancel_right (List.append_cancel_left hchars)

theorem pathText_concat (u : Url) (path : Path) (segment : List Char) :
    ({ u with path := path ++ [segment] } : Url).pathText = ({ u with path } : Url).pathText ++ '/' :: segment := by
  simp [pathText]

theorem splitOn_pathText (h : ∀ segment ∈ u.path, '/' ∉ segment) : u.pathText.splitOn '/' = [] :: u.path := by
  have hslashes : ∀ (first : List Char) (path : Path),
      first ++ path.flatMap ('/' :: ·) = ['/'].intercalate (first :: path) := by
    intro first path
    induction path generalizing first with
    | nil => simp
    | cons segment path ih => rw [List.intercalate_cons_cons, ← ih]; simp
  have htext : u.pathText = ['/'].intercalate ([] :: u.path) := hslashes [] u.path
  rw [htext]
  exact List.splitOn_intercalate '/' (List.forall_mem_cons.mpr ⟨List.not_mem_nil, h⟩) (List.cons_ne_nil _ _)

/-- The segments between the slashes of the path as written, but for empty ones. -/
def segments (u : Url) : List (List Char) :=
  (u.pathText.splitOn '/').filter (· ≠ [])

theorem segments_eq (h : ∀ segment ∈ u.path, '/' ∉ segment) : u.segments = u.path.filter (· ≠ []) := by
  rw [segments, splitOn_pathText h]
  rfl

theorem path_of_pathText_eq {v : Url} (hu : ∀ segment ∈ u.path, '/' ∉ segment) (hv : ∀ segment ∈ v.path, '/' ∉ segment)
    (h : u.pathText = v.pathText) : u.path = v.path := by
  have hsplit := splitOn_pathText hu
  rw [h, splitOn_pathText hv] at hsplit
  exact (List.cons.inj hsplit).2.symm

end

end Url
end ClusterConsole
