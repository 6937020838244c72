import ClusterConsole.Proofs.Table.Markup

/-! # The table read back

Whatever the texts of the nodes are, the table is read as one row of headings and one row for each node, with the
texts of its cells as they were before they were escaped. -/

namespace ClusterConsole

namespace NodeRow

/-- The first cell shows the identifier, so rows with the same cells have the same attribute. -/
theorem id_of_cells {a b : NodeRow} (h : a.cells = b.cells) : a.id = b.id :=
  (List.cons.inj h).1

theorem length_cells (row : NodeRow) : row.cells.length = 5 := rfl

end NodeRow

namespace Html
open Markup

/-! ### What the parts of the table are read as -/

/-- A cell is read as its tags with its text between them. -/
def cellTokens (name cell : String) : List Token :=
  [.text [], .tag name.toList [], .text cell.toList, .tag ("/" ++ name).toList []]

/-- A row is read as its tag with one attribute, its cells and the tag that closes it. -/
def rowTokens (key : String × String) (name : String) (cells : List String) : List Token :=
  .text "\n      ".toList :: .tag "tr".toList [(key.1.toList, key.2.toList)] ::
    (cells.flatMap (cellTokens name) ++ [.text [], .tag "/tr".toList []])

/-- What is read in front of the first row. -/
def startTokens : List Token :=
  [.text [], .tag "div".toList [("class".toList, "nodes".toList)], .text "\n  ".toList, .tag "h2".toList [],
    .text "Nodes".toList, .tag "/h2".toList [], .text "\n  ".toList,
    .tag "div".toList [("class".toList, "list".toList)], .text "\n    ".toList, .tag "table".toList []]

/-- What is read behind the last row. -/
def endTokens : List Token :=
  [.text "\n    ".toList, .tag "/table".toList [], .text "\n  ".toList, .tag "/div".toList [], .text "\n".toList,
    .tag "/div".toList []]

/-! ### Reading the parts -/

theorem isTag_td : Reader.IsTag "<td>" "td" := fun _ _ => rfl
theorem isTag_td_close : Reader.IsTag "</td>" ("/" ++ "td") := fun _ _ => rfl
theorem isTag_th : Reader.IsTag "<th>" "th" := fun _ _ => rfl
theorem isTag_th_close : Reader.IsTag "</th>" ("/" ++ "th") := fun _ _ => rfl

section
variable {opening closing name : String}

theorem scan_cell (hopen : Reader.IsTag opening name) (hclose : Reader.IsTag closing ("/" ++ name))
    (found : List Token) (cell : String) :
    Reader.scan ⟨found, .content []⟩ (opening ++ escape cell ++ closing) =
      ⟨found ++ cellTokens name cell, .content []⟩ := by
  rw [Reader.scan_append, Reader.scan_append, hopen, Reader.scan_escape_content, hclose, unescape_escaped]
  simp [cellTokens, unescape]

theorem scan_cells (hopen : Reader.IsTag opening name) (hclose : Reader.IsTag closing ("/" ++ name))
    (found : List Token) (cells : List String) :
    Reader.scan ⟨found, .content []⟩ (String.join (cells.map fun cell => opening ++ escape cell ++ closing)) =
      ⟨found ++ cells.flatMap (cellTokens name), .content []⟩ := by
  rw [Reader.scan_join, List.foldl_map]
  induction cells generalizing found with
  | nil => simp
  | cons cell cells ih => rw [List.foldl_cons, scan_cell hopen hclose, ih, List.flatMap_cons, List.append_assoc]

end

theorem scan_row_end (found : List Token) : Reader.scan ⟨found, .content []⟩ "</tr>\n" =
    ⟨found ++ [.text []] ++ [.tag "/tr".toList []], .content ['\n']⟩ := rfl

theorem scan_header (found : List Token) : Reader.scan ⟨found, .content ['\n']⟩ header =
    ⟨found ++ rowTokens ("id", "header") "th" columns, .content ['\n']⟩ := by
  have hopen : Reader.scan ⟨[], .content ['\n']⟩ "      <tr id=\"header\">" =
      ⟨[.text "\n      ".toList, .tag "tr".toList [("id".toList, "header".toList)]], .content []⟩ := by
    decide +kernel
  have hplain : ∀ column ∈ columns, escape column = column := by decide +kernel
  have hcolumns : columns.map (fun column => "<th>" ++ column ++ "</th>") =
      columns.map fun column => "<th>" ++ escape column ++ "</th>" :=
    List.map_congr_left fun column hcolumn => by rw [hplain column hcolumn]
  unfold header
  rw [Reader.scan_append, Reader.scan_append, Reader.scan_eq_append found, hopen, hcolumns,
    scan_cells isTag_th isTag_th_close, scan_row_end]
  simp [rowTokens]

theorem scan_row (found : List Token) (row : NodeRow) : Reader.scan ⟨found, .content ['\n']⟩ (Html.row row) =
    ⟨found ++ rowTokens ("data-node-id", row.id) "td" row.cells, .content ['\n']⟩ := by
  have hopen : Reader.scan ⟨[], .content ['\n']⟩ "      <tr data-node-id=\"" =
      ⟨[.text "\n      ".toList], .value "tr".toList [] "data-node-id".toList []⟩ := by decide +kernel
  unfold Html.row cells
  rw [Reader.scan_append, Reader.scan_append, Reader.scan_append, Reader.scan_append]
  rw [Reader.scan_eq_append found, hopen, Reader.scan_escape_value, Reader.scan_value_end, unescape_escaped,
    scan_cells isTag_td isTag_td_close, scan_row_end]
  simp [rowTokens]

theorem scan_rows (found : List Token) (rows : List NodeRow) :
    Reader.scan ⟨found, .content ['\n']⟩ (String.join (rows.map Html.row)) =
      ⟨found ++ rows.flatMap (fun row => rowTokens ("data-node-id", row.id) "td" row.cells), .content ['\n']⟩ := by
  rw [Reader.scan_join, List.foldl_map]
  induction rows generalizing found with
  | nil => simp
  | cons row rows ih => rw [List.foldl_cons, scan_row, ih, List.flatMap_cons, List.append_assoc]

/-- The tags of the table and the texts between them. -/
theorem tokens?_table (zone : DisplayZone) (nodes : List NodeRecord) :
    tokens? (table zone nodes) = some (startTokens ++ rowTokens ("id", "header") "th" columns ++
      (rows zone nodes).flatMap (fun row => rowTokens ("data-node-id", row.id) "td" row.cells) ++ endTokens ++
        [.text "\n".toList]) := by
  have hstart : Reader.scan {} tableStart = ⟨startTokens, .content ['\n']⟩ := by decide +kernel
  have hend : Reader.scan ⟨[], .content ['\n']⟩ tableEnd = ⟨endTokens, .content ['\n']⟩ := by decide +kernel
  unfold tokens? table
  rw [Reader.scan_append, Reader.scan_append, Reader.scan_append, hstart, scan_header, scan_rows,
    Reader.scan_eq_append (startTokens ++ _ ++ _), hend]
  rfl

/-! ### Rows and cells -/

section
variable {name : String}

theorem foldl_cellTokens (hname : name = "td" ∨ name = "th") (found : List Row) (node : Option String)
    (before : List String) (cell : String) :
    (cellTokens name cell).foldl RowReader.step ⟨found, some ⟨node, before⟩, none⟩ =
      ⟨found, some ⟨node, before ++ [cell]⟩, none⟩ := by
  have hread : "" ++ String.ofList cell.toList = cell := by rw [String.ofList_toList, String.empty_append]
  obtain rfl | rfl := hname
  · show (⟨found, some ⟨node, before ++ ["" ++ String.ofList cell.toList]⟩, none⟩ : RowReader) = _
    rw [hread]
  · show (⟨found, some ⟨node, before ++ ["" ++ String.ofList cell.toList]⟩, none⟩ : RowReader) = _
    rw [hread]

theorem foldl_cells (hname : name = "td" ∨ name = "th") (found : List Row) (node : Option String)
    (before cells : List String) :
    (cells.flatMap (cellTokens name)).foldl RowReader.step ⟨found, some ⟨node, before⟩, none⟩ =
      ⟨found, some ⟨node, before ++ cells⟩, none⟩ := by
  induction cells generalizing before with
  | nil => simp
  | cons cell cells ih =>
    rw [List.flatMap_cons, List.foldl_append, foldl_cellTokens hname, ih, List.append_assoc, List.singleton_append]

/-- A row is found with its cells, for the node that its tag names. -/
theorem foldl_rowTokens (hname : name = "td" ∨ name = "th") (found : List Row) (key : String × String)
    (cells : List String) : (rowTokens key name cells).foldl RowReader.step ⟨found, none, none⟩ =
      ⟨found ++ [⟨([(key.1.toList, key.2.toList)].lookup "data-node-id".toList).map String.ofList, cells⟩], none,
        none⟩ := by
  rw [rowTokens, List.foldl_cons, List.foldl_cons, List.foldl_append]
  generalize hnode : ([(key.1.toList, key.2.toList)].lookup "data-node-id".toList).map String.ofList = node
  have hopen : (RowReader.step ⟨found, none, none⟩ (.text "\n      ".toList)).step
      (.tag "tr".toList [(key.1.toList, key.2.toList)]) = ⟨found, some ⟨node, []⟩, none⟩ := by
    rw [← hnode]
    rfl
  rw [hopen, foldl_cells hname, List.nil_append]
  rfl

theorem foldl_rows (found : List Row) (rows : List NodeRow) :
    (rows.flatMap fun row => rowTokens ("data-node-id", row.id) "td" row.cells).foldl RowReader.step
      ⟨found, none, none⟩ = ⟨found ++ rows.map fun row => ⟨some row.id, row.cells⟩, none, none⟩ := by
  induction rows generalizing found with
  | nil => simp
  | cons row rows ih =>
    have hid : ([("data-node-id".toList, row.id.toList)].lookup "data-node-id".toList).map String.ofList =
        some row.id := congrArg some String.ofList_toList
    rw [List.flatMap_cons, List.foldl_append, foldl_rowTokens (Or.inl rfl), hid, ih, List.map_cons,
      List.append_assoc, List.singleton_append]

end

theorem rows?_table (zone : DisplayZone) (nodes : List NodeRecord) : rows? (table zone nodes) =
    some (⟨none, columns⟩ :: (rows zone nodes).map fun row => ⟨some row.id, row.cells⟩) := by
  rw [rows?, tokens?_table, Option.map_some, List.foldl_append, List.foldl_append, List.foldl_append, List.foldl_append]
  have hstart : startTokens.foldl RowReader.step {} = ⟨[], none, none⟩ := rfl
  rw [hstart, foldl_rowTokens (Or.inr rfl), foldl_rows]
  rfl

/-! ### Tags -/

/-- The names of the tags of a row of five cells. -/
def rowTags (name : String) : List String :=
  "tr" :: ((List.replicate 5 [name, "/" ++ name]).flatten ++ ["/tr"])

theorem tagNames_cells (name : String) (cells : List String) :
    (cells.flatMap (cellTokens name)).filterMap Token.tagName? =
      (List.replicate cells.length [name, "/" ++ name]).flatten := by
  have hcell : ∀ cell, (cellTokens name cell).filterMap Token.tagName? = [name, "/" ++ name] := by
    intro cell
    show [String.ofList name.toList, String.ofList ("/" ++ name).toList] = _
    rw [String.ofList_toList, String.ofList_toList]
  induction cells with
  | nil => rfl
  | cons cell cells ih =>
    rw [List.flatMap_cons, List.filterMap_append, hcell, ih]
    rfl

theorem tagNames_rowTokens (key : String × String) (name : String) {cells : List String} (h : cells.length = 5) :
    (rowTokens key name cells).filterMap Token.tagName? = rowTags name := by
  have hmiddle := tagNames_cells name cells
  rw [h] at hmiddle
  rw [rowTags, ← hmiddle]
  show String.ofList "tr".toList :: (cells.flatMap (cellTokens name) ++ _).filterMap Token.tagName? = _
  rw [List.filterMap_append]
  rfl

/-- The tags of the table are those of the headings and of as many rows as there are nodes, and no others. -/
theorem tagNames?_table (zone : DisplayZone) (nodes : List NodeRecord) : tagNames? (table zone nodes) =
    some (["div", "h2", "/h2", "div", "table"] ++ rowTags "th" ++
      (List.replicate nodes.length (rowTags "td")).flatten ++ ["/table", "/div", "/div"]) := by
  have hrows : ∀ rows : List NodeRow,
      (rows.flatMap fun row => rowTokens ("data-node-id", row.id) "td" row.cells).filterMap Token.tagName? =
        (List.replicate rows.length (rowTags "td")).flatten := by
    intro rows
    induction rows with
    | nil => rfl
    | cons row rows ih =>
      rw [List.flatMap_cons, List.filterMap_append, tagNames_rowTokens _ _ row.length_cells, ih]
      rfl
  have hlength : (rows zone nodes).length = nodes.length := List.length_map _
  rw [tagNames?, tokens?_table, Option.map_some]
  simp only [List.filterMap_append]
  rw [tagNames_rowTokens _ _ rfl, hrows, hlength, List.append_assoc]
  rfl

/-! ### The table -/

/-- Rows with the same cells are written alike. -/
theorem row_of_cells {a b : NodeRow} (h : a.cells = b.cells) : Html.row a = Html.row b := by
  unfold Html.row cells
  rw [h, NodeRow.id_of_cells h]

theorem map_row_of_cells {as bs : List NodeRow} (h : as.map NodeRow.cells = bs.map NodeRow.cells) :
    as.map Html.row = bs.map Html.row := by
  induction as generalizing bs with
  | nil =>
    obtain rfl : bs = [] := by simpa using h.symm
    rfl
  | cons a as ih =>
    obtain ⟨b, bs, rfl, hb, hbs⟩ := List.map_eq_cons_iff.mp h.symm
    rw [List.map_cons, List.map_cons, row_of_cells hb.symm, ih hbs.symm]

/-- The table of any nodes is read back as the headings and a row for each node in turn, which names the node in its
    tag as in its first cell. The tags depend on the number of nodes alone. Two tables are the same exactly when their
    cells show the same texts. -/
theorem table_read_back (zone zone' : DisplayZone) (nodes nodes' : List NodeRecord) :
    Markup.rows? (table zone nodes) = some (⟨none, columns⟩ :: (rows zone nodes).map fun row =>
        ⟨some row.id, [row.id, row.service, row.locality, row.created, row.revision.getD ""]⟩) ∧
      Markup.tagNames? (table zone nodes) = some (["div", "h2", "/h2", "div", "table"] ++ rowTags "th" ++
        (List.replicate nodes.length (rowTags "td")).flatten ++ ["/table", "/div", "/div"]) ∧
      (table zone nodes = table zone' nodes' ↔
        (rows zone nodes).map NodeRow.cells = (rows zone' nodes').map NodeRow.cells) := by
  refine ⟨rows?_table zone nodes, tagNames?_table zone nodes, ?_, ?_⟩
  · intro h
    have hread := rows?_table zone nodes
    rw [h, rows?_table zone' nodes'] at hread
    have hmap := congrArg (List.map Row.cells) (List.cons.inj (Option.some.inj hread)).2
    rw [List.map_map, List.map_map] at hmap
    exact hmap.symm
  · intro h
    unfold table
    rw [map_row_of_cells h]

end Html
end ClusterConsole
