import ClusterConsole.Node.Id
import ClusterConsole.Time.Instant

/-! # Records of nodes

What the registry knows of a node. -/

namespace ClusterConsole

/-- Names and values that a node carries along: each name once, in the order of the names. -/
structure Metadata where
  entries : List (String × String)
  sorted : entries.Pairwise (·.1 < ·.1)
deriving DecidableEq, Repr

namespace Metadata

/-- No entries. -/
def empty : Metadata := ⟨[], .nil⟩

instance : Inhabited Metadata := ⟨empty⟩

/-- The entries with one more in its place. An entry of the same name is replaced. -/
def insertEntry (name value : String) : List (String × String) → List (String × String)
  | [] => [(name, value)]
  | (n, v) :: rest =>
    if name < n then (name, value) :: (n, v) :: rest
    else if name = n then (name, value) :: rest
    else (n, v) :: insertEntry name value rest

/-- The names after an insertion are the given one and those before. -/
theorem of_mem_insertEntry {name value : String} {entry : String × String} {entries : List (String × String)}
    (h : entry ∈ insertEntry name value entries) : entry.1 = name ∨ entry ∈ entries := by
  induction entries with
  | nil => simp_all [insertEntry]
  | cons head rest ih => grind [insertEntry]

/-- An insertion keeps the order of the names. -/
theorem pairwise_insertEntry {name value : String} {entries : List (String × String)}
    (h : entries.Pairwise (·.1 < ·.1)) : (insertEntry name value entries).Pairwise (·.1 < ·.1) := by
  induction entries with
  | nil => simp [insertEntry]
  | cons head rest ih =>
    obtain ⟨n, v⟩ := head
    rw [List.pairwise_cons] at h
    unfold insertEntry
    split
    · next before =>
      refine List.pairwise_cons.2 ⟨fun entry mem => ?_, List.pairwise_cons.2 h⟩
      rcases List.mem_cons.1 mem with rfl | mem
      · exact before
      · exact String.lt_trans before (h.1 entry mem)
    · split
      · next same => exact List.pairwise_cons.2 ⟨fun entry mem => same ▸ h.1 entry mem, h.2⟩
      · next notBefore other =>
        refine List.pairwise_cons.2 ⟨fun entry mem => ?_, ih h.2⟩
        rcases of_mem_insertEntry mem with eq | mem
        · rw [eq]
          exact Decidable.byContradiction fun notAfter =>
            other (String.le_antisymm (String.not_lt.1 notAfter) (String.not_lt.1 notBefore))
        · exact h.1 entry mem

/-- The metadata with a value under a name. -/
def insert (m : Metadata) (name value : String) : Metadata :=
  ⟨insertEntry name value m.entries, pairwise_insertEntry m.sorted⟩

end Metadata

/-- What the registry knows of a node. -/
structure NodeRecord where
  id : NodeId
  service : String := ""
  locality : String := ""
  /-- When the node was registered. -/
  created : Option Instant := none
  revision : Option String := none
  metadata : Metadata := .empty
deriving BEq, DecidableEq, Repr

namespace NodeRecord

/-- The order of records: that of their identifiers. -/
def compare (a b : NodeRecord) : Ordering :=
  a.id.compare b.id

/-- Records in the order of their identifiers. Records of equal identifiers keep their order. -/
def sort (nodes : List NodeRecord) : List NodeRecord :=
  nodes.mergeSort fun a b => a.compare b != .gt

end NodeRecord

end ClusterConsole
