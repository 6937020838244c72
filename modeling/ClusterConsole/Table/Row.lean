import ClusterConsole.Node.Record
import ClusterConsole.Text.Utf8
import ClusterConsole.Time.Display

/-! # Rows of the table

Every table of nodes has the same five columns, whatever it is rendered as. -/

namespace ClusterConsole

/-- How many characters of a revision are shown. -/
def revisionLength : Nat := 10

/-- What is shown in place of the rest of a revision. -/
def ellipsis : String := "..."

/-- A revision cut at the byte at which its eleventh character begins; none when it cannot be cut there. -/
def truncateAtByte? (revision : String) : Option String :=
  match (Utf8.starts 0 revision.toList)[revisionLength]? with
  | some cut => (Utf8.upTo? revision cut).map (· ++ ellipsis)
  | none => some revision

/-- A revision as shown: up to its eleventh character, and an ellipsis when there is one. It can always be cut there. -/
def truncateRevision (revision : String) : String :=
  (truncateAtByte? revision).getD revision

/-- The headings of the columns. -/
def columns : List String := ["ID", "Service", "Locality", "Created", "Revision"]

/-- What the table shows of a node. -/
structure NodeRow where
  id : String
  service : String
  locality : String
  created : String
  revision : Option String
deriving DecidableEq, Repr

namespace NodeRow

/-- The row of a node, with its time in the given zone. -/
def ofRecord (zone : DisplayZone) (node : NodeRecord) : NodeRow where
  id := node.id.display
  service := node.service
  locality := node.locality
  created := displayCreated node.created zone
  revision := node.revision.map truncateRevision

/-- The cells, in the order of the columns. -/
def cells (row : NodeRow) : List String :=
  [row.id, row.service, row.locality, row.created, row.revision.getD ""]

end NodeRow

/-- The rows of nodes, in their order. -/
def rows (zone : DisplayZone) (nodes : List NodeRecord) : List NodeRow :=
  nodes.map (NodeRow.ofRecord zone)

end ClusterConsole
