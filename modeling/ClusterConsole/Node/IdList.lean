import ClusterConsole.Node.Id
import Std.Data.HashSet

/-! # Lists of identifiers

Sorting them, and telling which of them are new. -/

namespace ClusterConsole.NodeId

/-- Identifiers in their order. Equal ones keep theirs. -/
def sort (ids : List NodeId) : List NodeId :=
  ids.mergeSort fun a b => a.compare b != .gt

/-- Puts identifiers into a set in turn, and tells of each whether the set did not have it before. -/
def insertAll (known : Std.HashSet NodeId) : List NodeId → List Bool
  | [] => []
  | id :: rest =>
    let (present, known) := known.containsThenInsert id
    (!present) :: insertAll known rest

/-- Which identifiers of a list are new when they come in turn. -/
def areNew (ids : List NodeId) : List Bool :=
  insertAll ∅ ids

end ClusterConsole.NodeId
