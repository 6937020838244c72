import Mathlib.Tactic.SplitIfs
import ClusterConsole.Proofs.Table.Escape

/-! # Markup as it is read

A reader goes through markup one character at a time and finds the tags and the text between them. A tag ends at the
next `>` that stands in no quotes, a text at the next `<`. Rows and cells are then found by their tags alone. -/

namespace ClusterConsole.Markup

/-- An attribute of a tag: its name and its value. -/
abbrev Attribute := List Char × List Char

/-- A tag, or the text before one. The name of a tag that closes begins with a slash. -/
inductive Token where
  | tag (name : List Char) (attributes : List Attribute)
  | text (content : List Char)
deriving DecidableEq, Repr

/-- Where a reader is, with what it has read there. -/
inductive Place where
  | content (read : List Char)
  | name (read : List Char)
  /-- In a tag behind its name, but in no quotes. -/
  | tag (name : List Char) (attributes : List Attribute) (read : List Char)
  /-- In the quotes of a value. -/
  | value (tag : List Char) (attributes : List Attribute) (name read : List Char)
deriving DecidableEq, Repr

/-- A reader: the tags and texts that it has passed, and where it is. -/
structure Reader where
  found : List Token := []
  place : Place := .content []
deriving DecidableEq, Repr

namespace Reader

/-- A reader takes one more character. References in texts and in values are replaced when these end. -/
def step (r : Reader) (c : Char) : Reader :=
  match r.place with
  | .content read =>
    if c = '<' then ⟨r.found ++ [.text (Html.unescape read)], .name []⟩ else ⟨r.found, .content (read ++ [c])⟩
  | .name read =>
    if c = '>' then ⟨r.found ++ [.tag read []], .content []⟩
    else if c = ' ' then ⟨r.found, .tag read [] []⟩
    else ⟨r.found, .name (read ++ [c])⟩
  | .tag tag attributes read =>
    if c = '>' then ⟨r.found ++ [.tag tag attributes], .content []⟩
    else if c = '"' then ⟨r.found, .value tag attributes read []⟩
    else if c = ' ' then ⟨r.found, .tag tag attributes []⟩
    else if c = '=' then r
    else ⟨r.found, .tag tag attributes (read ++ [c])⟩
  | .value tag attributes name read =>
    if c = '"' then ⟨r.found, .tag tag (attributes ++ [(name, Html.unescape read)]) []⟩
    else ⟨r.found, .value tag attributes name (read ++ [c])⟩

/-- A reader takes the characters of a text. -/
def scan (r : Reader) (text : String) : Reader :=
  text.toList.foldl step r

@[simp] theorem scan_append (r : Reader) (a b : String) : r.scan (a ++ b) = (r.scan a).scan b := by
  simp [scan]

theorem scan_join (r : Reader) (texts : List String) : r.scan (String.join texts) = texts.foldl scan r := by
  induction texts generalizing r with
  | nil => rfl
  | cons text texts ih =>
    have hjoin : String.join (text :: texts) = text ++ String.join texts := by
      apply String.toList_injective
      simp
    rw [hjoin, scan_append, ih, List.foldl_cons]

/-- What has been found already has no influence on how the rest is read. -/
theorem scan_eq_append (found : List Token) (place : Place) (text : String) :
    scan ⟨found, place⟩ text = ⟨found ++ (scan ⟨[], place⟩ text).found, (scan ⟨[], place⟩ text).place⟩ := by
  have step_found : ∀ (found more : List Token) (place : Place) (c : Char),
      step ⟨found ++ more, place⟩ c = ⟨found ++ (step ⟨more, place⟩ c).found, (step ⟨more, place⟩ c).place⟩ := by
    intro found more place c
    cases place <;> simp only [step] <;> split_ifs <;> simp
  have foldl_found : ∀ (text : List Char) (more : List Token) (place : Place),
      text.foldl step ⟨found ++ more, place⟩ =
        ⟨found ++ (text.foldl step ⟨more, place⟩).found, (text.foldl step ⟨more, place⟩).place⟩ := by
    intro text
    induction text with
    | nil => exact fun _ _ => rfl
    | cons c text ih =>
      intro more place
      rw [List.foldl_cons, step_found, ih]
      rfl
  simpa [scan] using foldl_found text.toList [] place

/-! ### Data between the marks -/

theorem step_content {c : Char} (h : c ≠ '<') (found : List Token) (read : List Char) :
    step ⟨found, .content read⟩ c = ⟨found, .content (read ++ [c])⟩ :=
  if_neg h

theorem step_value {c : Char} (h : c ≠ '"') (found : List Token) (tag : List Char) (attributes : List Attribute)
    (name read : List Char) :
    step ⟨found, .value tag attributes name read⟩ c = ⟨found, .value tag attributes name (read ++ [c])⟩ :=
  if_neg h

theorem foldl_content {text : List Char} (h : '<' ∉ text) (found : List Token) (read : List Char) :
    text.foldl step ⟨found, .content read⟩ = ⟨found, .content (read ++ text)⟩ := by
  induction text generalizing read with
  | nil => simp
  | cons c text ih =>
    obtain ⟨hc, htext⟩ := not_or.mp (mt List.mem_cons.mpr h)
    rw [List.foldl_cons, step_content (Ne.symm hc), ih htext, List.append_assoc, List.singleton_append]

theorem foldl_value {text : List Char} (h : '"' ∉ text) (found : List Token) (tag : List Char)
    (attributes : List Attribute) (name read : List Char) :
    text.foldl step ⟨found, .value tag attributes name read⟩ =
      ⟨found, .value tag attributes name (read ++ text)⟩ := by
  induction text generalizing read with
  | nil => simp
  | cons c text ih =>
    obtain ⟨hc, htext⟩ := not_or.mp (mt List.mem_cons.mpr h)
    rw [List.foldl_cons, step_value (Ne.symm hc), ih htext, List.append_assoc, List.singleton_append]

/-- Between tags an escaped text is all read as text. -/
theorem scan_escape_content (found : List Token) (text : String) :
    scan ⟨found, .content []⟩ (Html.escape text) = ⟨found, .content (text.toList.flatMap Html.escapeChar)⟩ := by
  rw [scan, Html.toList_escape, foldl_content (Html.not_mem_escaped (by decide) _), List.nil_append]

/-- In quotes an escaped text is all read as part of the value. -/
theorem scan_escape_value (found : List Token) (tag : List Char) (attributes : List Attribute) (name : List Char)
    (text : String) : scan ⟨found, .value tag attributes name []⟩ (Html.escape text) =
      ⟨found, .value tag attributes name (text.toList.flatMap Html.escapeChar)⟩ := by
  rw [scan, Html.toList_escape, foldl_value (Html.not_mem_escaped (by decide) _), List.nil_append]

/-- A quote ends a value, and the tag may end behind it. -/
theorem scan_value_end (found : List Token) (tag : List Char) (attributes : List Attribute) (name read : List Char) :
    scan ⟨found, .value tag attributes name read⟩ "\">" =
      ⟨found ++ [.tag tag (attributes ++ [(name, Html.unescape read)])], .content []⟩ := rfl

/-- Wherever it stands in text, the markup is read as a tag of the name, without attributes. -/
def IsTag (markup name : String) : Prop :=
  ∀ found read, scan ⟨found, .content read⟩ markup =
    ⟨found ++ [.text (Html.unescape read)] ++ [.tag name.toList []], .content []⟩

end Reader

/-- The tags and texts of markup, if no tag is cut off at its end. -/
def tokens? (markup : String) : Option (List Token) :=
  match Reader.scan {} markup with
  | ⟨found, .content read⟩ => some (found ++ [.text (Html.unescape read)])
  | _ => none

/-- The name of a tag; a text has none. -/
def Token.tagName? : Token → Option String
  | .tag name _ => some (String.ofList name)
  | .text _ => none

/-- The names of the tags of markup, in their order. -/
def tagNames? (markup : String) : Option (List String) :=
  (tokens? markup).map (List.filterMap Token.tagName?)

/-! ### Rows and cells -/

/-- A row of a table: the node it is said to show, and the texts of its cells. -/
structure Row where
  node : Option String
  cells : List String
deriving DecidableEq, Repr

/-- What has been found of a table: rows, the row that is not closed yet, and the text of its cell. -/
structure RowReader where
  rows : List Row := []
  row : Option Row := none
  cell : Option String := none

namespace RowReader

/-- A tag of a row or of a cell opens or closes it, and a text belongs to the cell that is open. -/
def step (r : RowReader) : Token → RowReader
  | .text content => { r with cell := r.cell.map (· ++ String.ofList content) }
  | .tag name attributes =>
    if name = "tr".toList then
      { r with row := some ⟨(attributes.lookup "data-node-id".toList).map String.ofList, []⟩ }
    else if name = "/tr".toList then { r with rows := r.rows ++ r.row.toList, row := none }
    else if name = "td".toList ∨ name = "th".toList then { r with cell := some "" }
    else if name = "/td".toList ∨ name = "/th".toList then
      { r with row := r.row.map fun row => { row with cells := row.cells ++ r.cell.toList }, cell := none }
    else r

end RowReader

/-- The rows of all tables of markup, in their order. -/
def rows? (markup : String) : Option (List Row) :=
  (tokens? markup).map fun tokens => (tokens.foldl RowReader.step {}).rows

end ClusterConsole.Markup
