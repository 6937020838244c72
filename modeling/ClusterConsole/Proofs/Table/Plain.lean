import ClusterConsole.Table.Plain

/-! # The table as plain text

A column is as wide as its widest cell, so the table can be written exactly when no cell is too wide. -/

namespace ClusterConsole.Plain

section
variable {widths : List Nat} {cells : Cells} {lines : List Cells} {limit : Nat}

theorem length_widen (h : cells.length = widths.length) : (widen widths cells).length = widths.length := by
  rw [widen, List.length_zipWith, h, Nat.min_self]

theorem length_foldl_widen (h : ∀ cells ∈ lines, cells.length = widths.length) :
    (lines.foldl widen widths).length = widths.length := by
  induction lines generalizing widths with
  | nil => rfl
  | cons cells lines ih =>
    obtain ⟨hcells, hmore⟩ := List.forall_mem_cons.mp h
    rw [List.foldl_cons, ih fun more hmem => (hmore more hmem).trans (length_widen hcells).symm, length_widen hcells]

theorem widen_le_iff (h : cells.length = widths.length) :
    (∀ width ∈ widen widths cells, width ≤ limit) ↔
      (∀ width ∈ widths, width ≤ limit) ∧ ∀ cell ∈ cells, cell.length ≤ limit := by
  induction widths generalizing cells with
  | nil =>
    obtain rfl := List.length_eq_zero_iff.mp h
    simp [widen]
  | cons width widths ih =>
    obtain ⟨cell, cells, rfl⟩ := List.exists_cons_of_length_eq_add_one h
    have hmore := ih (Nat.succ.inj h)
    simp only [widen, List.zipWith_cons_cons, List.forall_mem_cons, Nat.max_le] at hmore ⊢
    rw [hmore]
    exact and_and_and_comm

/-- The widths stay within a limit as long as the cells do. -/
theorem foldl_widen_le_iff (h : ∀ cells ∈ lines, cells.length = widths.length) :
    (∀ width ∈ lines.foldl widen widths, width ≤ limit) ↔
      (∀ width ∈ widths, width ≤ limit) ∧ ∀ cells ∈ lines, ∀ cell ∈ cells, cell.length ≤ limit := by
  induction lines generalizing widths with
  | nil => simp
  | cons cells lines ih =>
    obtain ⟨hcells, hmore⟩ := List.forall_mem_cons.mp h
    rw [List.foldl_cons, ih fun more hmem => (hmore more hmem).trans (length_widen hcells).symm, widen_le_iff hcells,
      List.forall_mem_cons, and_assoc]

end

theorem length_of_mem_lines {zone : DisplayZone} {nodes : List NodeRecord} {cells : Cells}
    (h : cells ∈ lines zone nodes) : cells.length = columns.length := by
  rcases List.mem_cons.mp h with rfl | hrow
  · rfl
  · obtain ⟨row, -, rfl⟩ := List.mem_map.mp hrow
    rfl

/-- Every cell of the table fits in a column. -/
def Fits (zone : DisplayZone) (nodes : List NodeRecord) : Prop :=
  ∀ cells ∈ lines zone nodes, ∀ cell ∈ cells, cell.length ≤ greatestWidth

instance (zone : DisplayZone) (nodes : List NodeRecord) : Decidable (Fits zone nodes) :=
  inferInstanceAs (Decidable (∀ cells ∈ lines zone nodes, ∀ cell ∈ cells, cell.length ≤ greatestWidth))

/-- The table can be written exactly when every cell fits. -/
theorem isSome_table?_iff (zone : DisplayZone) (nodes : List NodeRecord) :
    (table? zone nodes).isSome ↔ Fits zone nodes := by
  have hheadings : ∀ width ∈ columns.map String.length, width ≤ greatestWidth := by decide
  have hlength : ∀ cells ∈ lines zone nodes, cells.length = (columns.map String.length).length := fun cells h =>
    (length_of_mem_lines h).trans (List.length_map String.length).symm
  have hall : (widths (lines zone nodes)).all (· ≤ greatestWidth) = true ↔ Fits zone nodes := by
    rw [List.all_eq_true]
    simp only [decide_eq_true_eq]
    exact (foldl_widen_le_iff hlength).trans (and_iff_right hheadings)
  unfold table?
  dsimp only
  split
  · rename_i hfits
    exact ⟨fun _ => hall.mp hfits, fun _ => rfl⟩
  · rename_i hwide
    exact ⟨nofun, fun h => absurd (hall.mpr h) hwide⟩

/-- The table as far as it can be written: all of its lines. -/
theorem table?_of_fits {zone : DisplayZone} {nodes : List NodeRecord} (h : Fits zone nodes) : table? zone nodes =
    some (String.ofList ((lines zone nodes).flatMap (line (widths (lines zone nodes))))) := by
  have hsome := (isSome_table?_iff zone nodes).mpr h
  unfold table? at hsome ⊢
  dsimp only at hsome ⊢
  split
  · rfl
  · rename_i hwide
    rw [if_neg hwide] at hsome
    cases hsome

/-- Without nodes the headings remain. -/
theorem table?_nil (zone : DisplayZone) : table? zone [] = some "ID  Service  Locality  Created  Revision\n" := by
  have hlines : lines zone [] = lines .utc [] := by simp only [lines, rows, List.map_nil]
  unfold table?
  rw [hlines]
  decide +kernel

end ClusterConsole.Plain
