import ClusterConsole.Node.Document
import ClusterConsole.Proofs.Table.Columns
import ClusterConsole.Proofs.Table.Revision
import ClusterConsole.Proofs.Text.Lines
import ClusterConsole.Proofs.Text.Reading
import ClusterConsole.Proofs.Time.Display

/-! # The lines of the plain table

The cells of a row are shown as they are, so a line feed in a cell breaks the row, unless nothing visible stands
behind it: then it is cut off with the blanks at the end of the row. Whoever gives a node its texts can make rows of
their own this way. Without line feeds every row is one line. -/

namespace ClusterConsole

/-- Something visible stands behind a line feed in the cells of the row. -/
def NodeRow.Broken (row : NodeRow) : Prop :=
  ∃ front back, row.cells.flatMap String.toList = front ++ '\n' :: back ∧ ∃ c ∈ back, isBlank c = false

/-- The texts among what is shown of a node. -/
def NodeRecord.texts (node : NodeRecord) : List String :=
  (match node.id with | .text s => [s] | _ => []) ++ [node.service, node.locality] ++ node.revision.toList

namespace Plain

/-! ### Line feeds that are shown -/

/-- The line feeds in the cells of a row that something visible stands behind. -/
def lineFeeds (cells : Cells) : Nat :=
  (Blank.trimEnd (cells.flatMap String.toList)).count '\n'

section
variable {widths : List Nat} {cells : Cells}

/-- Without its spaces a row is its cells, one behind the other, without theirs. -/
theorem filter_joined (h : Room widths cells) :
    (joined widths cells).filter (· ≠ ' ') = (cells.flatMap String.toList).filter (· ≠ ' ') := by
  have hpad : ∀ width cell, (pad width cell).filter (· ≠ ' ') = cell.toList.filter (· ≠ ' ') := by
    intro width cell
    rw [pad, List.filter_append, List.filter_replicate, if_neg (by simp), List.append_nil]
  induction h with
  | nil => rfl
  | @cons width cell widths cells _ hroom ih =>
    rw [List.flatMap_cons, List.filter_append]
    by_cases hne : cells = []
    · subst hne
      cases hroom
      rw [← hpad width cell]
      simp [joined, List.intercalate_singleton]
    · rw [joined_cons hroom hne, List.filter_append, List.filter_append, ih, hpad]
      simp

theorem count_shown (h : Room widths cells) : (shown widths cells).count '\n' = lineFeeds cells := by
  -- Spaces may be left out on both sides: they are blank, so this commutes with the cutting at the end.
  have hkeep : ∀ c, isBlank c = false → decide (c ≠ ' ') = true := by
    rintro c hc
    rw [decide_eq_true_eq]
    rintro rfl
    exact absurd hc (by decide)
  have hcount : ∀ text : List Char, text.count '\n' = (text.filter (· ≠ ' ')).count '\n' := fun text =>
    (List.count_filter (by decide)).symm
  rw [lineFeeds, shown, hcount, Blank.filter_trimEnd hkeep, filter_joined h, ← Blank.filter_trimEnd hkeep, ← hcount]

theorem lineFeeds_pos_iff (row : NodeRow) : 0 < lineFeeds row.cells ↔ row.Broken :=
  List.count_pos_iff.trans (Blank.mem_trimEnd_iff (by decide))

end

/-! ### Texts without line feeds -/

section
variable {zone : DisplayZone}

theorem newline_not_mem_of_isDigit {text : List Char} (h : ∀ c ∈ text, c.isDigit) : '\n' ∉ text := fun hmem =>
  absurd (h _ hmem) (by decide)

theorem newline_not_mem_padded (width n : Nat) : '\n' ∉ Decimal.padded width n :=
  newline_not_mem_of_isDigit (Decimal.isDigit_padded width n)

theorem newline_not_mem_digits (n : Nat) : '\n' ∉ Decimal.digits n :=
  newline_not_mem_of_isDigit fun _ => Decimal.isDigit_of_mem_digits

theorem newline_not_mem_displayCreated (created : Option Instant) (zone : DisplayZone) :
    '\n' ∉ (displayCreated created zone).toList := by
  cases created with
  | none => exact nofun
  | some t =>
    have hyear : ∀ year, '\n' ∉ yearText year := by
      intro year
      unfold yearText
      split
      · exact newline_not_mem_padded _ _
      · split <;> simp [newline_not_mem_padded]
    rw [displayCreated, Instant.toList_display]
    simp [hyear, newline_not_mem_padded]

theorem newline_not_mem_display_fraction (x : Binary64) : '\n' ∉ x.display := by
  have hsigned : ∀ text, '\n' ∉ text → '\n' ∉ x.signed text := by
    intro text htext
    unfold Binary64.signed
    split
    · simp [htext]
    · exact htext
  unfold Binary64.display
  split
  · split
    · exact hsigned _ (by decide)
    · decide
  split
  · exact hsigned _ (by decide)
  · refine hsigned _ ?_
    have htake : ∀ n k, '\n' ∉ (Decimal.digits n).take k := fun n _ hmem =>
      newline_not_mem_digits n (List.mem_of_mem_take hmem)
    have hdrop : ∀ n k, '\n' ∉ (Decimal.digits n).drop k := fun n _ hmem =>
      newline_not_mem_digits n (List.mem_of_mem_drop hmem)
    unfold Binary64.positional
    dsimp only
    split
    · simp [newline_not_mem_digits]
    · split <;> simp [newline_not_mem_digits, htake, hdrop]

theorem newline_not_mem_truncateRevision {s : String} (h : '\n' ∉ s.toList) : '\n' ∉ (truncateRevision s).toList := by
  rcases Nat.lt_or_ge 10 s.length with hlong | hshort
  · rw [toList_truncateRevision_of_lt hlong, List.mem_append, not_or]
    exact ⟨fun hmem => h (List.mem_of_mem_take hmem), by decide⟩
  · rwa [truncateRevision_of_le hshort]

theorem newline_not_mem_display_id {id : NodeId} (h : ∀ s, id = .text s → '\n' ∉ s.toList) :
    '\n' ∉ id.display.toList := by
  cases id with
  | numeric n =>
    rw [NodeId.display, String.toList_ofList, Decimal.integer]
    split <;> simp [newline_not_mem_digits]
  | unsigned n =>
    rw [NodeId.display, String.toList_ofList]
    exact newline_not_mem_digits _
  | fractional x =>
    rw [NodeId.display, String.toList_ofList]
    exact newline_not_mem_display_fraction x
  | text s => exact h s rfl

/-- No other text but those that were given for the node can break its row. -/
theorem not_broken_of_texts {node : NodeRecord} (h : ∀ text ∈ node.texts, '\n' ∉ text.toList) :
    ¬(NodeRow.ofRecord zone node).Broken := by
  rintro ⟨front, back, hcells, -⟩
  have hmem : '\n' ∈ (NodeRow.ofRecord zone node).cells.flatMap String.toList := by
    rw [hcells]
    exact List.mem_append_right _ List.mem_cons_self
  have hid : '\n' ∉ node.id.display.toList :=
    newline_not_mem_display_id fun s hs => h s (by simp [NodeRecord.texts, hs])
  have hservice : '\n' ∉ node.service.toList := h _ (by simp [NodeRecord.texts])
  have hlocality : '\n' ∉ node.locality.toList := h _ (by simp [NodeRecord.texts])
  have hrevision : '\n' ∉ ((node.revision.map truncateRevision).getD "").toList := by
    cases hr : node.revision with
    | none => exact nofun
    | some s => exact newline_not_mem_truncateRevision (h s (by simp [NodeRecord.texts, hr]))
  simp [NodeRow.cells, NodeRow.ofRecord, hid, hservice, hlocality, hrevision, newline_not_mem_displayCreated] at hmem

end

/-! ### The lines -/

section
variable {zone : DisplayZone} {nodes : List NodeRecord}

theorem lineFeeds_eq_zero_iff (row : NodeRow) : lineFeeds row.cells = 0 ↔ ¬row.Broken := by
  rw [← lineFeeds_pos_iff, Nat.pos_iff_ne_zero, not_not]

theorem getLast?_shown_ne (widths : List Nat) (cells : Cells) : (shown widths cells).getLast? ≠ some '\r' := fun h =>
  absurd (Blank.endsVisibly_trimEnd _ _ h) (by decide)

theorem newline_not_mem_shown {widths : List Nat} {cells : Cells} (h : Room widths cells)
    (hnone : lineFeeds cells = 0) : '\n' ∉ shown widths cells := by
  rw [← List.count_eq_zero, count_shown h, hnone]

theorem room_row {row : NodeRow} (h : row ∈ rows zone nodes) : Room (widths (lines zone nodes)) row.cells :=
  room_of_mem_lines (List.mem_cons_of_mem _ (List.mem_map_of_mem h))

/-- What is shown of the rows, without the headings. -/
def shownRows (zone : DisplayZone) (nodes : List NodeRecord) : List (List Char) :=
  (rows zone nodes).map fun row => shown (widths (lines zone nodes)) row.cells

theorem textLines_table? (h : Fits zone nodes) : ∃ text, table? zone nodes = some text ∧
    textLines text = shown (widths (lines zone nodes)) columns ::
      textLines (String.ofList ((shownRows zone nodes).flatMap (· ++ ['\n']))) := by
  refine ⟨_, table?_of_fits h, ?_⟩
  have hchunks : (lines zone nodes).flatMap (line (widths (lines zone nodes))) =
      (shown (widths (lines zone nodes)) columns :: shownRows zone nodes).flatMap (· ++ ['\n']) := by
    show (columns :: (rows zone nodes).map NodeRow.cells).flatMap (line (widths (lines zone nodes))) = _
    rw [shownRows, List.flatMap_cons, List.flatMap_cons, List.flatMap_map, List.flatMap_map]
    rfl
  have hheadings : '\n' ∉ shown (widths (lines zone nodes)) columns :=
    newline_not_mem_shown (room_of_mem_lines List.mem_cons_self) (by decide +kernel)
  rw [hchunks]
  exact textLines_cons_of_unbroken hheadings (getLast?_shown_ne _ _) _

theorem length_textLines_shownRows (zone : DisplayZone) (nodes : List NodeRecord) :
    (textLines (String.ofList ((shownRows zone nodes).flatMap (· ++ ['\n'])))).length =
      nodes.length + ((rows zone nodes).map fun row => lineFeeds row.cells).sum := by
  have hcount : (shownRows zone nodes).map (List.count '\n') =
      (rows zone nodes).map fun row => lineFeeds row.cells := by
    rw [shownRows, List.map_map]
    exact List.map_congr_left fun row hrow => count_shown (room_row hrow)
  rw [length_textLines_chunks, hcount, shownRows, List.length_map, rows, List.length_map]

theorem textLines_shownRows (h : ∀ row ∈ rows zone nodes, ¬row.Broken) :
    textLines (String.ofList ((shownRows zone nodes).flatMap (· ++ ['\n']))) = shownRows zone nodes := by
  apply textLines_of_unbroken
  · intro chunk hchunk
    obtain ⟨row, hrow, rfl⟩ := List.mem_map.mp hchunk
    exact newline_not_mem_shown (room_row hrow) ((lineFeeds_eq_zero_iff row).mpr (h row hrow))
  · intro chunk hchunk
    obtain ⟨row, -, rfl⟩ := List.mem_map.mp hchunk
    exact getLast?_shown_ne _ _

/-- The headings are the first line. Every node has a line of its own behind it, and one more for each line feed in its
    cells that something visible stands behind. So there are as many lines behind the headings as nodes exactly when no
    row is broken, and then these lines are the rows in their order. It takes a line feed in a text that was given for
    the node to break its row. -/
theorem lines_of_fits (h : Fits zone nodes) : ∃ (text : String) (header : List Char) (more : List (List Char)),
    table? zone nodes = some text ∧ textLines text = header :: more ∧
      Laid (widths (lines zone nodes)) columns header ∧
      more.length = nodes.length + ((rows zone nodes).map fun row => lineFeeds row.cells).sum ∧
      (more.length = nodes.length ↔ ∀ row ∈ rows zone nodes, ¬row.Broken) ∧
      ((∀ row ∈ rows zone nodes, ¬row.Broken) →
        List.Forall₂ (fun row line => Laid (widths (lines zone nodes)) row.cells line) (rows zone nodes) more) ∧
      ((∀ node ∈ nodes, ∀ text ∈ node.texts, '\n' ∉ text.toList) → ∀ row ∈ rows zone nodes, ¬row.Broken) := by
  obtain ⟨text, htext, hlines⟩ := textLines_table? h
  refine ⟨text, _, _, htext, hlines, laid_shown (room_of_mem_lines List.mem_cons_self),
    length_textLines_shownRows zone nodes, ?_, fun hrows => ?_, fun hnodes row hrow => ?_⟩
  · rw [length_textLines_shownRows, Nat.add_eq_left, List.sum_eq_zero_iff_forall_eq_nat, List.forall_mem_map]
    exact forall₂_congr fun row _ => lineFeeds_eq_zero_iff row
  · rw [textLines_shownRows hrows]
    exact List.forall₂_map_right_iff.mpr (List.forall₂_same.mpr fun row hrow => laid_shown (room_row hrow))
  · obtain ⟨node, hnode, rfl⟩ := List.mem_map.mp hrow
    exact not_broken_of_texts (hnodes node hnode)

end

/-- One node with a line feed in its service, shown as two nodes are. -/
def brokenNode : List NodeRecord :=
  [{ id := .text "x", service := "a\ny" }]

theorem fits_brokenNode : Fits .utc brokenNode := by
  decide +kernel

theorem lines_of_brokenNode : Fits .utc brokenNode ∧ ∃ text header more, table? .utc brokenNode = some text ∧
    textLines text = header :: more ∧ more.length = 2 := by
  obtain ⟨text, header, more, htext, hlines, -, hlength, -⟩ := lines_of_fits fits_brokenNode
  exact ⟨fits_brokenNode, text, header, more, htext, hlines, hlength.trans (by decide +kernel)⟩

/-- The table of one node that a document lists is the table of two nodes of another document. -/
theorem not_lines_of_brokenNode :
    let two : List NodeRecord := [{ id := .text "x", service := "a" }, { id := .text "y" }]
    NodeRecord.decodeList (Utf8.ofString "[\x7b\"id\":\"x\",\"service\":\"a\\ny\"\x7d]") = .ok brokenNode ∧
      NodeRecord.decodeList (Utf8.ofString "[\x7b\"id\":\"x\",\"service\":\"a\"\x7d,\x7b\"id\":\"y\"\x7d]") = .ok two ∧
      table? .utc brokenNode = table? .utc two ∧
      ¬∀ (document : List UInt8) (nodes : List NodeRecord) (text : String),
        NodeRecord.decodeList document = .ok nodes → Fits .utc nodes → table? .utc nodes = some text →
          (textLines text).length = nodes.length + 1 := by
  intro two
  have hone : NodeRecord.decodeList (Utf8.ofString "[\x7b\"id\":\"x\",\"service\":\"a\\ny\"\x7d]") = .ok brokenNode :=
    toOption_eq_some_iff.mp (by decide +kernel)
  have htwo : NodeRecord.decodeList (Utf8.ofString "[\x7b\"id\":\"x\",\"service\":\"a\"\x7d,\x7b\"id\":\"y\"\x7d]") =
      .ok two := toOption_eq_some_iff.mp (by decide +kernel)
  refine ⟨hone, htwo, by decide +kernel, fun hall => ?_⟩
  have htable : table? .utc brokenNode = some "ID  Service  Locality  Created  Revision\nx   a\ny\n" := by
    decide +kernel
  have hlength := hall _ _ _ hone fits_brokenNode htable
  revert hlength
  decide +kernel

end Plain
end ClusterConsole
