import Mathlib.Algebra.Ring.Nat
import Mathlib.Data.List.Forall2
import Mathlib.Order.Bounds.Basic
import ClusterConsole.Proofs.Table.Plain
import ClusterConsole.Proofs.Text.Blank

/-! # The columns of the plain table

A column is as wide as its widest cell, so a cell with its padding fills its column. What stands in front of a column
therefore has the same length in every row, whatever the cells hold, and cutting blanks off the end of a row moves
nothing. -/

namespace ClusterConsole.Plain

/-! ### Widths -/

/-- The lengths of the cells of a column. -/
def lengths (lines : List Cells) (k : Nat) : Set Nat :=
  {n | ∃ cells ∈ lines, ∃ cell, cells[k]? = some cell ∧ cell.length = n}

section
variable {widths : List Nat} {cells : Cells} {lines : List Cells} {k width : Nat} {cell : String}

theorem lengths_cons (h : cells[k]? = some cell) (lines : List Cells) :
    lengths (cells :: lines) k = insert cell.length (lengths lines k) := by
  ext n
  simp only [lengths, Set.mem_ofPred_eq, Set.mem_insert_iff, List.exists_mem_cons_iff, h, Option.some.injEq,
    exists_eq_left', eq_comm (a := n)]

theorem isGreatest_insert_max {s : Set Nat} {m n greatest : Nat} (h : IsGreatest (insert (max m n) s) greatest) :
    IsGreatest (insert m (insert n s)) greatest := by
  obtain ⟨hmem, hbound⟩ := h
  obtain ⟨hmax, hrest⟩ : max m n ≤ greatest ∧ ∀ x ∈ s, x ≤ greatest := by
    simpa [upperBounds] using hbound
  refine ⟨?_, ?_⟩
  · rcases hmem with rfl | hmem
    · rcases Nat.le_total m n with hle | hle
      · exact .inr (.inl (Nat.max_eq_right hle))
      · exact .inl (Nat.max_eq_left hle)
    · exact .inr (.inr hmem)
  · rintro x (rfl | rfl | hx)
    · exact Nat.le_trans (Nat.le_max_left _ _) hmax
    · exact Nat.le_trans (Nat.le_max_right _ _) hmax
    · exact hrest x hx

/-- Widening row by row comes to the greatest of the width at the start and the lengths of the cells. -/
theorem isGreatest_foldl_widen {start greatest : Nat} (hstart : widths[k]? = some start)
    (hlines : ∀ cells ∈ lines, k < cells.length) (h : (lines.foldl widen widths)[k]? = some greatest) :
    IsGreatest (insert start (lengths lines k)) greatest := by
  induction lines generalizing widths start with
  | nil =>
    obtain rfl := Option.some.inj (hstart.symm.trans h)
    simp [lengths]
  | cons cells lines ih =>
    obtain ⟨hcells, hlines⟩ := List.forall_mem_cons.mp hlines
    have hcell : cells[k]? = some cells[k] := List.getElem?_eq_getElem hcells
    have hwiden : (widen widths cells)[k]? = some (max start cells[k].length) := by
      rw [widen, List.getElem?_zipWith, hstart, hcell]
    rw [lengths_cons hcell]
    exact isGreatest_insert_max (ih hwiden hlines h)

/-! ### Rows -/

/-- Every cell of a row has room in its column. -/
abbrev Room (widths : List Nat) (cells : Cells) : Prop :=
  List.Forall₂ (fun width cell => cell.length ≤ width) widths cells

/-- How many characters stand in front of a column. -/
def offset (widths : List Nat) (k : Nat) : Nat :=
  ((widths.take k).map (· + 2)).sum

/-- The cells in front of a column, padded, with two spaces behind each. -/
def before (widths : List Nat) (cells : Cells) (k : Nat) : List Char :=
  ((List.zipWith (fun width cell => pad width cell ++ [' ', ' ']) widths cells).take k).flatten

/-- What is shown of a row. -/
def shown (widths : List Nat) (cells : Cells) : List Char :=
  Blank.trimEnd (joined widths cells)

theorem pad_eq_rightpad (width : Nat) (cell : String) : pad width cell = cell.toList.rightpad width ' ' := by
  rw [pad, List.rightpad, String.length_toList]

theorem length_pad (h : cell.length ≤ width) : (pad width cell).length = width := by
  rw [pad, List.length_append, String.length_toList, List.length_replicate, Nat.add_sub_cancel' h]

theorem length_before (h : Room widths cells) (k : Nat) : (before widths cells k).length = offset widths k := by
  induction h generalizing k with
  | nil => simp [before, offset]
  | @cons width cell widths cells hcell _ ih =>
    cases k with
    | zero => rfl
    | succ k =>
      have hlength : (before (width :: widths) (cell :: cells) (k + 1)).length =
          (pad width cell ++ [' ', ' ']).length + (before widths cells k).length := List.length_append
      rw [hlength, List.length_append, length_pad hcell, ih]
      rfl

theorem before_succ (hwidth : widths[k]? = some width) (hcell : cells[k]? = some cell) :
    before widths cells (k + 1) = before widths cells k ++ (pad width cell ++ [' ', ' ']) := by
  rw [before, List.take_add_one, List.getElem?_zipWith, hwidth, hcell, List.flatten_append]
  simp [before]

theorem joined_cons (h : Room widths cells) (hne : cells ≠ []) (width : Nat) (cell : String) :
    joined (width :: widths) (cell :: cells) = pad width cell ++ [' ', ' '] ++ joined widths cells := by
  cases h with
  | nil => exact absurd rfl hne
  | cons _ _ => exact List.intercalate_cons_cons

theorem joined_eq_append (h : Room widths cells) (hk : k < cells.length) :
    joined widths cells = before widths cells k ++ joined (widths.drop k) (cells.drop k) := by
  induction h generalizing k with
  | nil => exact absurd hk (Nat.not_lt_zero k)
  | @cons width cell widths cells _ hroom ih =>
    cases k with
    | zero => rfl
    | succ k =>
      have hk' : k < cells.length := Nat.lt_of_succ_lt_succ hk
      rw [joined_cons hroom (List.ne_nil_of_length_pos (Nat.zero_lt_of_lt hk')), ih hk', ← List.append_assoc]
      rfl

/-- The column begins with its cell. -/
theorem exists_joined_drop (h : Room widths cells) (hcell : cells[k]? = some cell) :
    ∃ more, joined (widths.drop k) (cells.drop k) = cell.toList ++ more := by
  induction h generalizing k with
  | nil => cases hcell
  | @cons width first widths cells _ hroom ih =>
    cases k with
    | zero =>
      obtain rfl := Option.some.inj hcell
      rw [List.drop_zero, List.drop_zero]
      by_cases hne : cells = []
      · subst hne
        cases hroom
        exact ⟨_, List.intercalate_singleton⟩
      · exact ⟨_, by rw [joined_cons hroom hne, pad, List.append_assoc, List.append_assoc]⟩
    | succ k => exact ih hcell

/-! ### What is shown of a row -/

/-- If a row is shown as far as to a column, what stands in front of the column is shown, and of the rest all but the
    blanks at its end. -/
theorem shown_eq_append (h : Room widths cells) (hk : k < cells.length)
    (hreach : offset widths k ≤ (shown widths cells).length) :
    shown widths cells = before widths cells k ++ Blank.trimEnd (joined (widths.drop k) (cells.drop k)) := by
  rw [shown, joined_eq_append h hk] at hreach ⊢
  -- When all of the rest is blank, cutting could go on into what stands in front of the column, but then the row would
  -- not be shown as far as to the column.
  by_cases hrest : Blank.trimEnd (joined (widths.drop k) (cells.drop k)) = []
  · rw [Blank.trimEnd_append_blanks (Blank.trimEnd_eq_nil_iff.mp hrest)] at hreach ⊢
    rw [← length_before h] at hreach
    rw [hrest, List.append_nil]
    exact (Blank.trimEnd_prefix_self _).eq_of_length_le hreach
  · exact Blank.trimEnd_append_of_visible hrest

theorem drop_shown (h : Room widths cells) (hk : k < cells.length)
    (hreach : offset widths k ≤ (shown widths cells).length) :
    (shown widths cells).drop (offset widths k) = Blank.trimEnd (joined (widths.drop k) (cells.drop k)) := by
  rw [shown_eq_append h hk hreach, List.drop_left' (length_before h k)]

/-- A row laid out in columns of the given widths. -/
structure Laid (widths : List Nat) (cells : Cells) (chunk : List Char) : Prop where
  /-- It is what its cells begin with, each of them filled up with spaces to the width of its column, joined by two
      spaces. All that is cut off is blank. -/
  padded : ∃ rest, (∀ c ∈ rest, isBlank c) ∧ chunk ++ rest =
    [' ', ' '].intercalate (List.zipWith (fun width cell => cell.toList.rightpad width ' ') widths cells)
  endsVisibly : Blank.EndsVisibly chunk
  /-- As far as it goes, every cell begins at the offset of its column, and what is visible of it is there. -/
  starts : ∀ k cell, cells[k]? = some cell → offset widths k ≤ chunk.length →
    (chunk.drop (offset widths k)).take cell.length <+: cell.toList ∧
      Blank.trimEnd cell.toList <+: chunk.drop (offset widths k)
  /-- Between a cell and the next one are two spaces at least, and nothing else. -/
  apart : ∀ k cell next, cells[k]? = some cell → cells[k + 1]? = some next → offset widths (k + 1) ≤ chunk.length →
    ∃ gap, 2 ≤ gap ∧ chunk.drop (offset widths k) =
      cell.toList ++ List.replicate gap ' ' ++ chunk.drop (offset widths (k + 1))

theorem shown_starts (h : Room widths cells) (hcell : cells[k]? = some cell)
    (hreach : offset widths k ≤ (shown widths cells).length) :
    ((shown widths cells).drop (offset widths k)).take cell.length <+: cell.toList ∧
      Blank.trimEnd cell.toList <+: (shown widths cells).drop (offset widths k) := by
  obtain ⟨hk, -⟩ := List.getElem?_eq_some_iff.mp hcell
  obtain ⟨more, hmore⟩ := exists_joined_drop h hcell
  rw [drop_shown h hk hreach, hmore]
  refine ⟨?_, Blank.trimEnd_prefix_trimEnd_append _ _⟩
  refine List.prefix_of_prefix_length_le ((List.take_prefix _ _).trans (Blank.trimEnd_prefix_self _))
    (List.prefix_append _ _) ?_
  rw [String.length_toList]
  exact List.length_take_le _ _

theorem shown_apart (h : Room widths cells) {next : String} (hcell : cells[k]? = some cell)
    (hnext : cells[k + 1]? = some next) (hreach : offset widths (k + 1) ≤ (shown widths cells).length) :
    ∃ gap, 2 ≤ gap ∧ (shown widths cells).drop (offset widths k) =
      cell.toList ++ List.replicate gap ' ' ++ (shown widths cells).drop (offset widths (k + 1)) := by
  obtain ⟨hk, -⟩ := List.getElem?_eq_some_iff.mp hcell
  obtain ⟨hk', -⟩ := List.getElem?_eq_some_iff.mp hnext
  obtain ⟨width, hwidth⟩ : ∃ width, widths[k]? = some width :=
    ⟨_, List.getElem?_eq_getElem (Nat.lt_of_lt_of_eq hk h.length_eq.symm)⟩
  refine ⟨width - cell.length + 2, Nat.le_add_left 2 _, ?_⟩
  rw [drop_shown h hk' hreach]
  conv_lhs => rw [shown_eq_append h hk' hreach, before_succ hwidth hcell, List.append_assoc,
    List.drop_left' (length_before h k)]
  rw [pad, List.replicate_add]
  simp only [List.append_assoc]
  rfl

theorem laid_shown (h : Room widths cells) : Laid widths cells (shown widths cells) where
  padded := by
    obtain ⟨rest, hrest, hblank⟩ := Blank.exists_eq_trimEnd_append (joined widths cells)
    refine ⟨rest, hblank, ?_⟩
    rw [shown, ← hrest, joined, funext₂ pad_eq_rightpad]
  endsVisibly := Blank.endsVisibly_trimEnd _
  starts _ _ := shown_starts h
  apart _ _ _ := shown_apart h

end

/-! ### The table -/

section
variable {zone : DisplayZone} {nodes : List NodeRecord}

theorem length_widths (zone : DisplayZone) (nodes : List NodeRecord) : (widths (lines zone nodes)).length = 5 :=
  length_foldl_widen fun _ => length_of_mem_lines

theorem isGreatest_widths {k width : Nat} (h : (widths (lines zone nodes))[k]? = some width) :
    IsGreatest (lengths (lines zone nodes) k) width := by
  have hk : k < columns.length := Nat.lt_of_lt_of_eq (List.getElem?_eq_some_iff.mp h).1 (length_widths zone nodes)
  have hheading : columns[k]? = some columns[k] := List.getElem?_eq_getElem hk
  have hstart : (columns.map String.length)[k]? = some columns[k].length := by
    rw [List.getElem?_map, hheading]
    rfl
  have hmem : columns[k].length ∈ lengths (lines zone nodes) k := ⟨columns, List.mem_cons_self, _, hheading, rfl⟩
  rw [← Set.insert_eq_of_mem hmem]
  exact isGreatest_foldl_widen hstart (fun _ hcells => (length_of_mem_lines hcells).symm ▸ hk) h

theorem room_of_mem_lines {cells : Cells} (h : cells ∈ lines zone nodes) :
    Room (widths (lines zone nodes)) cells := by
  refine List.forall₂_iff_get.mpr ⟨(length_widths zone nodes).trans (length_of_mem_lines h).symm, fun k hk hk' => ?_⟩
  refine (isGreatest_widths (List.getElem?_eq_getElem hk)).2 ⟨cells, h, _, List.getElem?_eq_getElem hk', rfl⟩

/-- The table is the row of the headings and one row for each node in turn, each laid out in columns that are as wide
    as their widest cell and ended by a line feed. -/
theorem laid_of_fits (h : Fits zone nodes) : ∃ (widths : List Nat) (chunks : List (List Char)),
    table? zone nodes = some (String.ofList (chunks.flatMap (· ++ ['\n']))) ∧
      List.Forall₂ (Laid widths) (columns :: (rows zone nodes).map NodeRow.cells) chunks ∧
      widths.length = 5 ∧ ∀ k width, widths[k]? = some width →
        IsGreatest (lengths (columns :: (rows zone nodes).map NodeRow.cells) k) width := by
  refine ⟨widths (lines zone nodes), (lines zone nodes).map (shown (widths (lines zone nodes))), ?_, ?_,
    length_widths zone nodes, fun _ _ => isGreatest_widths⟩
  · rw [table?_of_fits h, List.flatMap_map]
    rfl
  · exact List.forall₂_map_right_iff.mpr (List.forall₂_same.mpr fun _ hcells => laid_shown (room_of_mem_lines hcells))

end

/-- Two nodes, the first of them with an ideographic space at its end, which counts in the width of its column. -/
def blankEnd : List NodeRecord :=
  [{ id := .text "node-10", service := "a\u3000" }, { id := .numeric 2, revision := some "é123456789abc" }]

/-- The table of these two nodes. -/
def blankEndTable : String :=
  "ID       Service  Locality  Created  Revision\nnode-10  a\n" ++
    "2                                    é123456789...\n"

theorem laid_of_blankEnd : Fits .utc blankEnd ∧ ∃ (widths : List Nat) (chunks : List (List Char)),
    String.ofList (chunks.flatMap (· ++ ['\n'])) = blankEndTable ∧
      List.Forall₂ (Laid widths) (lines .utc blankEnd) chunks := by
  have hfits : Fits .utc blankEnd := by decide +kernel
  have htable : table? .utc blankEnd = some blankEndTable := by decide +kernel
  obtain ⟨widths, chunks, htext, hlaid, -, -⟩ := laid_of_fits hfits
  exact ⟨hfits, widths, chunks, Option.some.inj (htext.symm.trans htable), hlaid⟩

end ClusterConsole.Plain
