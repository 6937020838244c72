import ClusterConsole.Proofs.Text.Ascii
import ClusterConsole.Proofs.Url.Percent
import ClusterConsole.Url.Path

/-! # Paths and the segments that are added to them

A text that is added to a path becomes one segment, in which nothing has a meaning, unless it is `.` or `..`, possibly
only after tabs and line breaks have been dropped from it. -/

namespace ClusterConsole

namespace Segment
open Percent

/-- A text that is one step down a path, and stays so when the path is written and read again. -/
structure Proper (text : List Char) : Prop where
  noMark : ∀ c ∈ text, c ≠ '/' ∧ c ≠ '\\' ∧ c ≠ '?' ∧ c ≠ '#'
  notHere : isHere text = false
  notBack : isBack text = false

theorem isDot_iff {text : List Char} :
    isDot text = true ↔ text = ['.'] ∨ text = ['%', '2', 'e'] ∨ text = ['%', '2', 'E'] := by
  simp [isDot, or_assoc]

/-- The escape of a byte is a point only if the byte is. -/
theorem byte_of_escape_isDot {b : UInt8} {more rest : List Char} {d : List Char} (hd : isDot d = true)
    (h : escape b ++ more = d ++ rest) : b = 0x2E := by
  have hbytes : ∀ n < 256, hexDigit (n / 16) = '2' → hexDigit (n % 16) = 'E' → n = 0x2E := by
    decide +kernel
  have hlower : ∀ n < 16, hexDigit n ≠ 'e' := by decide
  have hb := b.toNat_lt
  rcases isDot_iff.mp hd with rfl | rfl | rfl
  · simp [escape] at h
  · simp only [escape, List.cons_append, List.nil_append, List.cons.injEq] at h
    exact absurd h.2.2.1 (hlower _ (by omega))
  · simp only [escape, List.cons_append, List.nil_append, List.cons.injEq] at h
    exact UInt8.toNat_inj.mp (hbytes _ (by omega) h.2.1 h.2.2.1)

/-- A point at the front of an encoded text was a point before. -/
theorem exists_of_encode_eq {text d rest : List Char} (hd : isDot d = true)
    (h : encode inSegment text = d ++ rest) : ∃ text', text = '.' :: text' ∧ encode inSegment text' = rest := by
  cases text with
  | nil =>
    rcases isDot_iff.mp hd with rfl | rfl | rfl <;> cases h
  | cons c text =>
    rw [encode_cons] at h
    rcases encodeChar_cases inSegment c with ⟨hc, hplain⟩ | ⟨hescaped, b, hb, more, heq⟩
    · rw [hplain] at h
      rcases isDot_iff.mp hd with rfl | rfl | rfl
      · obtain ⟨rfl, hrest⟩ := List.cons.inj h
        exact ⟨text, rfl, hrest⟩
      · obtain ⟨rfl, -⟩ := List.cons.inj h
        cases hc
      · obtain ⟨rfl, -⟩ := List.cons.inj h
        cases hc
    · rw [heq, List.append_assoc] at h
      obtain rfl := byte_of_escape_isDot hd h
      rcases Utf8.mem_encodeChar hb with ⟨hascii, hbyte⟩ | hhigh
      · obtain rfl : '.' = c := Ascii.byte_injective (by decide) hascii hbyte
        exact absurd hescaped (by decide)
      · exact absurd hhigh (by decide)

theorem isHere_encode {text : List Char} : isHere (encode inSegment text) = true ↔ text = ['.'] := by
  constructor
  · intro h
    obtain ⟨text', rfl, hrest⟩ := exists_of_encode_eq h (List.append_nil _).symm
    rw [encode_eq_nil hrest]
  · rintro rfl
    decide

theorem isBack_encode {text : List Char} : isBack (encode inSegment text) = true ↔ text = ['.', '.'] := by
  constructor
  · intro h
    obtain ⟨n, -, hn⟩ := List.any_eq_true.mp h
    obtain ⟨hfirst, hsecond⟩ := Bool.and_eq_true_iff.mp hn
    obtain ⟨text', rfl, hrest⟩ := exists_of_encode_eq hfirst (List.take_append_drop n _).symm
    obtain ⟨text'', rfl, hnil⟩ := exists_of_encode_eq hsecond (hrest.trans (List.append_nil _).symm)
    rw [encode_eq_nil hnil]
  · rintro rfl
    decide

theorem proper_encode {text : List Char} (hhere : text ≠ ['.']) (hback : text ≠ ['.', '.']) :
    Proper (encode inSegment text) where
  noMark c hc := by
    have hmarks : ∀ x ∈ ['/', '\\', '?', '#'], inSegment x = true ∧ x ≠ '%' ∧ x ∉ hexDigits := by
      intro x hx
      simp only [List.mem_cons, List.not_mem_nil, or_false] at hx
      obtain rfl | rfl | rfl | rfl := hx
      all_goals exact ⟨by decide, by decide, by decide⟩
    have hne : ∀ x ∈ ['/', '\\', '?', '#'], c ≠ x := by
      rintro x hx rfl
      obtain ⟨hspecial, hpercent, hdigit⟩ := hmarks c hx
      rcases mem_encode hc with ⟨-, hplain⟩ | heq | hmem
      · rw [hspecial] at hplain
        cases hplain
      · exact hpercent heq
      · exact hdigit hmem
    simpa using hne
  notHere := Bool.eq_false_iff.mpr (mt isHere_encode.mp hhere)
  notBack := Bool.eq_false_iff.mpr (mt isBack_encode.mp hback)

theorem proper_nil : Proper [] := ⟨nofun, rfl, rfl⟩

end Segment

namespace Path
open Percent

/-- A text without the characters that are dropped from a segment. -/
def stripped (text : List Char) : List Char :=
  text.filter (!isDropped ·)

/-- The path that a first segment is added to: without a slash at its end, and with none at all for `/` and `//`. -/
def stem (path : Path) : Path :=
  if path.withoutTrailingSlash = [[]] then [] else path.withoutTrailingSlash

variable {path : Path} {text : List Char}

theorem push_of_dots (h : text = ['.'] ∨ text = ['.', '.']) : path.push text = path :=
  if_pos h

theorem push_of_stripped_back (hdots : ¬(text = ['.'] ∨ text = ['.', '.'])) (hpath : path ≠ [[]])
    (h : stripped text = ['.', '.']) : path.push text = path.back ++ [[]] := by
  unfold push
  rw [if_neg hdots, if_neg hpath]
  exact if_pos (Segment.isBack_encode.mpr h)

theorem push_of_stripped_here (hdots : ¬(text = ['.'] ∨ text = ['.', '.'])) (hpath : path ≠ [[]])
    (h : stripped text = ['.']) : path.push text = path ++ [[]] := by
  have hback : Segment.isBack (encode inSegment (stripped text)) = false := by rw [h]; decide
  have hhere : Segment.isHere (encode inSegment (stripped text)) = true := Segment.isHere_encode.mpr h
  unfold push
  rw [if_neg hdots, if_neg hpath]
  change step path (encode inSegment (stripped text)) true = _
  rw [step, hback, hhere]
  rfl

theorem push_of_segment (hhere : stripped text ≠ ['.']) (hback : stripped text ≠ ['.', '.']) :
    path.push text = (if path = [[]] then [] else path) ++ [encode inSegment (stripped text)] := by
  have hdots : ¬(text = ['.'] ∨ text = ['.', '.']) := by
    rintro (rfl | rfl)
    · exact hhere rfl
    · exact hback rfl
  have hproper := Segment.proper_encode hhere hback
  unfold push
  rw [if_neg hdots]
  change step _ (encode inSegment (stripped text)) true = _
  rw [step, hproper.notBack, hproper.notHere]
  rfl

/-- A text of which nothing is lost when it is added to a path. -/
structure Kept (text : List Char) : Prop where
  notHere : text ≠ ['.']
  notBack : text ≠ ['.', '.']
  nothingDropped : ∀ c ∈ text, isDropped c = false

theorem Kept.stripped_eq (h : Kept text) : stripped text = text :=
  List.filter_eq_self.mpr fun c hc => by rw [h.nothingDropped c hc]; rfl

theorem Kept.push (h : Kept text) (hpath : path ≠ [[]]) : path.push text = path ++ [encode inSegment text] := by
  rw [push_of_segment (h.stripped_eq.symm ▸ h.notHere) (h.stripped_eq.symm ▸ h.notBack), if_neg hpath, h.stripped_eq]

/-! ### Several segments -/

/-- A text that becomes a segment without any change. -/
structure Verbatim (text : List Char) : Prop where
  notEmpty : text ≠ []
  notHere : stripped text ≠ ['.']
  notBack : stripped text ≠ ['.', '.']
  encoded : encode inSegment (stripped text) = text

theorem Verbatim.push (h : Verbatim text) (path : Path) :
    path.push text = (if path = [[]] then [] else path) ++ [text] := by
  rw [push_of_segment h.notHere h.notBack, h.encoded]

theorem append_ne_root (h : text ≠ []) (path : Path) : path ++ [text] ≠ [[]] := by
  intro heq
  exact h (List.append_singleton_inj.mp (heq.trans (List.nil_append _).symm)).2

/-- The segments of a route follow the path, in place of the empty segment of the path `/`. -/
theorem extend_of_verbatim {texts : List (List Char)} (htexts : ∀ t ∈ texts, Verbatim t) (hne : texts ≠ [])
    (path : Path) : path.extend texts = (if path = [[]] then [] else path) ++ texts := by
  cases texts with
  | nil => exact absurd rfl hne
  | cons t texts =>
    have later : ∀ (ts : List (List Char)) (p : Path), (∀ t ∈ ts, Verbatim t) → p ≠ [[]] → p.extend ts = p ++ ts := by
      intro ts
      induction ts with
      | nil => exact fun p _ _ => (List.append_nil p).symm
      | cons t ts ih =>
        intro p hts hp
        have ht := hts t List.mem_cons_self
        show (p.push t).extend ts = _
        rw [ht.push, if_neg hp, ih _ (fun u hu => hts u (List.mem_cons_of_mem t hu)) (append_ne_root ht.notEmpty p),
          List.append_assoc, List.singleton_append]
    have ht := htexts t List.mem_cons_self
    show (path.push t).extend texts = _
    rw [ht.push, later texts _ (fun u hu => htexts u (List.mem_cons_of_mem t hu)) (append_ne_root ht.notEmpty _),
      List.append_assoc, List.singleton_append]

end Path
end ClusterConsole
