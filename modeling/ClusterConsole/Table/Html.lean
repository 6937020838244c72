import ClusterConsole.Table.Row

/-! # Pages

The table as HTML, and the page around it. Every text that comes from a node is escaped, so it cannot end
the cell it stands in. -/

namespace ClusterConsole.Html

/-- How a character of a text is written in HTML. -/
def escapeChar (c : Char) : List Char :=
  if c = '&' then "&amp;".toList
  else if c = '<' then "&lt;".toList
  else if c = '>' then "&gt;".toList
  else if c = '"' then "&quot;".toList
  else if c = '\'' then "&#39;".toList
  else [c]

/-- A text as written in HTML. -/
def escape (text : String) : String :=
  String.ofList (text.toList.flatMap escapeChar)

/-- The cells of a row with their tags. -/
def cells (row : NodeRow) : String :=
  String.join (row.cells.map fun cell => "<td>" ++ escape cell ++ "</td>")

/-- A row. Its attribute is the identifier of the node. -/
def row (row : NodeRow) : String :=
  "      <tr data-node-id=\"" ++ escape row.id ++ "\">" ++ cells row ++ "</tr>\n"

/-- The row of the headings. -/
def header : String :=
  "      <tr id=\"header\">" ++ String.join (columns.map fun column => "<th>" ++ column ++ "</th>") ++ "</tr>\n"

/-- What stands before the rows. -/
def tableStart : String :=
  "<div class=\"nodes\">\n  <h2>Nodes</h2>\n  <div class=\"list\">\n    <table>\n"

/-- What stands after the rows. -/
def tableEnd : String :=
  "    </table>\n  </div>\n</div>\n"

/-- The table of nodes, in their order. -/
def table (zone : DisplayZone) (nodes : List NodeRecord) : String :=
  tableStart ++ header ++ String.join ((rows zone nodes).map row) ++ tableEnd

/-- Where the logo is served. -/
def logoPath : String := "/static/logo.svg"

/-- The bar at the top of a page. -/
def navigation : String :=
  "<div class=\"nav\">\n  <div class=\"title\">\n    <img src=\"" ++ logoPath ++
    "\" alt=\"Logo\" />\n  </div>\n</div>\n"

/-- The look of a page. -/
def style : String :=
  "    body \x7b font-family: system-ui, sans-serif; margin: 0; background: #fafafa; \x7d\n" ++
  "    .nav \x7b background: #1d2430; padding: 0.6rem 1.5rem; \x7d\n" ++
  "    .nav img \x7b height: 2rem; \x7d\n" ++
  "    .nodes \x7b max-width: 1100px; margin: 1.5rem auto; \x7d\n" ++
  "    table \x7b width: 100%; border-collapse: collapse; background: #fff; \x7d\n" ++
  "    th, td \x7b text-align: left; padding: 0.45rem 0.75rem; border-bottom: 1px solid #e2e2e2; \x7d\n" ++
  "    td \x7b font-family: ui-monospace, monospace; font-size: 0.92rem; \x7d\n"

/-- What stands before the content of a page. -/
def pageStart (title : String) : String :=
  "<!doctype html>\n<html lang=\"en\">\n<head>\n  <meta charset=\"utf-8\" />\n" ++
  "  <meta name=\"viewport\" content=\"width=device-width, initial-scale=1\" />\n" ++
  "  <title>" ++ escape title ++ "</title>\n  <style>\n" ++ style ++ "  </style>\n</head>\n" ++
  "<body>\n<div class=\"app\">\n" ++ navigation

/-- What stands after the content of a page. -/
def pageEnd : String :=
  "</div>\n</body>\n</html>\n"

/-- A page around content that is HTML already. -/
def page (title content : String) : String :=
  pageStart title ++ content ++ pageEnd

end ClusterConsole.Html
