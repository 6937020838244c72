import ClusterConsole.Proofs.Table.Html

/-! # The page read back

Around its table a page has a title and an end. Whatever the text of the title is, the title is read as it was before
it was escaped, and the rows of the page are those of the table. -/

namespace ClusterConsole

namespace Markup

/-- The text behind the first tag that begins a title. -/
def title? (markup : String) : Option String :=
  (tokens? markup).bind fun tokens =>
    match tokens.dropWhile (· ≠ .tag "title".toList []) with
    | _ :: .text content :: _ => some (String.ofList content)
    | _ => none

end Markup

namespace Html
open Markup

/-! ### What stands before the table -/

/-- What stands before the title. -/
def headStart : String :=
  "<!doctype html>\n<html lang=\"en\">\n<head>\n  <meta charset=\"utf-8\" />\n" ++
  "  <meta name=\"viewport\" content=\"width=device-width, initial-scale=1\" />\n" ++ "  <title>"

/-- What stands between the head and the table. -/
def bodyStart : String :=
  "<body>\n<div class=\"app\">\n" ++ navigation

theorem pageStart_eq (title : String) : pageStart title =
    headStart ++ escape title ++ ("</title>\n  <style>\n" ++ style ++ "  </style>\n</head>\n") ++ bodyStart := by
  unfold pageStart headStart bodyStart
  simp only [String.append_assoc]

/-- What is read of a page in front of its title. -/
def headStartTokens : List Token :=
  [.text [], .tag "!doctype".toList [], .text "\n".toList, .tag "html".toList [("lang".toList, "en".toList)],
    .text "\n".toList, .tag "head".toList [], .text "\n  ".toList,
    .tag "meta".toList [("charset".toList, "utf-8".toList)], .text "\n  ".toList,
    .tag "meta".toList [("name".toList, "viewport".toList),
      ("content".toList, "width=device-width, initial-scale=1".toList)], .text "\n  ".toList, .tag "title".toList []]

/-- What is read behind the title, up to the end of the head. -/
def styleTokens : List Token :=
  [.tag "/title".toList [], .text "\n  ".toList, .tag "style".toList [],
    .text (unescape (['\n'] ++ style.toList ++ [' '] ++ [' '])), .tag "/style".toList [], .text "\n".toList,
    .tag "/head".toList []]

/-- What is read between the head and the table. -/
def bodyStartTokens : List Token :=
  [.text "\n".toList, .tag "body".toList [], .text "\n".toList, .tag "div".toList [("class".toList, "app".toList)],
    .text "\n".toList, .tag "div".toList [("class".toList, "nav".toList)], .text "\n  ".toList,
    .tag "div".toList [("class".toList, "title".toList)], .text "\n    ".toList,
    .tag "img".toList [("src".toList, logoPath.toList), ("alt".toList, "Logo".toList)], .text "\n  ".toList,
    .tag "/div".toList [], .text "\n".toList, .tag "/div".toList []]

theorem scan_headStart : Reader.scan {} headStart = ⟨headStartTokens, .content []⟩ := by
  unfold headStart Reader.scan
  rw [String.toList_append, String.toList_append]
  rw [String.toList_ofList, String.toList_ofList, String.toList_ofList]
  decide +kernel

theorem scan_bodyStart : Reader.scan ⟨[], .content ['\n']⟩ bodyStart = ⟨bodyStartTokens, .content ['\n']⟩ := by
  unfold bodyStart navigation logoPath Reader.scan
  rw [String.toList_append, String.toList_append, String.toList_append]
  rw [String.toList_ofList, String.toList_ofList, String.toList_ofList, String.toList_ofList]
  decide +kernel

theorem style_plain : '<' ∉ style.toList := by
  unfold style
  simp only [String.toList_append, List.mem_append, not_or]
  repeat' apply And.intro
  all_goals
    rw [String.toList_ofList]
    decide +kernel

theorem scan_style (found : List Token) (read : List Char) :
    Reader.scan ⟨found, .content read⟩ ("</title>\n  <style>\n" ++ style ++ "  </style>\n</head>\n") =
      ⟨found ++ .text (unescape read) :: styleTokens, .content ['\n']⟩ := by
  have hopen : Reader.scan ⟨[], .content read⟩ "</title>\n  <style>\n" = ⟨[.text (unescape read),
      .tag "/title".toList [], .text "\n  ".toList, .tag "style".toList []], .content ['\n']⟩ := by
    rw [Reader.scan, String.toList_ofList]
    rfl
  have hplain : ∀ found, Reader.scan ⟨found, .content ['\n']⟩ style = ⟨found, .content (['\n'] ++ style.toList)⟩ :=
    fun _ => Reader.foldl_content style_plain _ _
  have hclose : ∀ found read, Reader.scan ⟨found, .content read⟩ "  </style>\n</head>\n" =
      ⟨found ++ [.text (unescape (read ++ [' '] ++ [' ']))] ++ [.tag "/style".toList []] ++ [.text "\n".toList] ++
        [.tag "/head".toList []], .content ['\n']⟩ := by
    intro found read
    rw [Reader.scan, String.toList_ofList]
    rfl
  rw [Reader.scan_append, Reader.scan_append, Reader.scan_eq_append found, hopen, hplain, hclose]
  rw [List.append_assoc, List.append_assoc, List.append_assoc, List.append_assoc]
  rfl

theorem scan_pageStart (title : String) : Reader.scan {} (pageStart title) =
    ⟨headStartTokens ++ .text title.toList :: (styleTokens ++ bodyStartTokens), .content ['\n']⟩ := by
  rw [pageStart_eq, Reader.scan_append _ _ bodyStart, Reader.scan_append _ (headStart ++ escape title),
    Reader.scan_append _ headStart, scan_headStart, Reader.scan_escape_content, scan_style, unescape_escaped,
    Reader.scan_eq_append, scan_bodyStart, List.append_assoc]
  rfl

/-! ### The table on a page -/

/-- The tags of a table that stands behind a line break, and the texts between them. -/
def tableTokens (rows : List NodeRow) : List Token :=
  .text "\n".toList :: startTokens.tail ++ rowTokens ("id", "header") "th" columns ++
    rows.flatMap (fun row => rowTokens ("data-node-id", row.id) "td" row.cells) ++ endTokens

/-- What is read behind the table. -/
def pageEndTokens : List Token :=
  [.text "\n".toList, .tag "/div".toList [], .text "\n".toList, .tag "/body".toList [], .text "\n".toList,
    .tag "/html".toList []]

theorem scan_table (found : List Token) (zone : DisplayZone) (nodes : List NodeRecord) :
    Reader.scan ⟨found, .content ['\n']⟩ (table zone nodes) =
      ⟨found ++ tableTokens (rows zone nodes), .content ['\n']⟩ := by
  have hstart : Reader.scan ⟨[], .content ['\n']⟩ tableStart =
      ⟨.text "\n".toList :: startTokens.tail, .content ['\n']⟩ := by
    unfold tableStart Reader.scan
    rw [String.toList_ofList]
    decide +kernel
  have hend : Reader.scan ⟨[], .content ['\n']⟩ tableEnd = ⟨endTokens, .content ['\n']⟩ := by decide +kernel
  unfold table tableTokens
  rw [Reader.scan_append, Reader.scan_append, Reader.scan_append, Reader.scan_eq_append found, hstart, scan_header,
    scan_rows, Reader.scan_eq_append (found ++ _ ++ _ ++ _), hend]
  simp only [List.append_assoc]

/-- The tags of a page and the texts between them. -/
theorem tokens?_page (title : String) (zone : DisplayZone) (nodes : List NodeRecord) :
    tokens? (page title (table zone nodes)) =
      some (headStartTokens ++ .text title.toList :: (styleTokens ++ bodyStartTokens) ++
        tableTokens (rows zone nodes) ++ pageEndTokens ++ [.text "\n".toList]) := by
  have hend : Reader.scan ⟨[], .content ['\n']⟩ pageEnd = ⟨pageEndTokens, .content ['\n']⟩ := by decide +kernel
  unfold tokens? page
  rw [Reader.scan_append, Reader.scan_append, scan_pageStart, scan_table, Reader.scan_eq_append (_ ++ _ ++ _), hend]
  rfl

/-! ### Title and rows -/

theorem title?_page (title : String) (zone : DisplayZone) (nodes : List NodeRecord) :
    title? (page title (table zone nodes)) = some title := by
  have hfront : headStartTokens.dropWhile (· ≠ .tag "title".toList []) = [.tag "title".toList []] := by decide +kernel
  rw [title?, tokens?_page]
  simp only [List.append_assoc, List.cons_append, Option.bind_some]
  rw [List.dropWhile_append, hfront]
  exact congrArg some String.ofList_toList

/-- The rows of a page are those of its table. -/
theorem rows?_page (title : String) (zone : DisplayZone) (nodes : List NodeRecord) :
    rows? (page title (table zone nodes)) =
      some (⟨none, columns⟩ :: (rows zone nodes).map fun row => ⟨some row.id, row.cells⟩) := by
  have hhead : (headStartTokens ++ .text title.toList :: (styleTokens ++ bodyStartTokens)).foldl RowReader.step {} =
      {} := rfl
  have hstart : (.text "\n".toList :: startTokens.tail).foldl RowReader.step {} = ⟨[], none, none⟩ := rfl
  rw [rows?, tokens?_page, Option.map_some, List.foldl_append, List.foldl_append, List.foldl_append, hhead, tableTokens,
    List.foldl_append, List.foldl_append, List.foldl_append, hstart, foldl_rowTokens (Or.inr rfl), foldl_rows]
  rfl

end Html
end ClusterConsole
